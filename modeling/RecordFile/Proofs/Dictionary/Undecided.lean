/-
Handles that are undecided, and the same ones settled at their open.

On a file with keys of one form the two give the same results and leave the same file, as long as
what the undecided handle writes first is in this form too: it is the default form, or something
was found before.
-/

import RecordFile.Proofs.Dictionary.Forms

namespace RecordFile

namespace Handles

open Dictionary (Command Result)

variable {world world' : Handles} {who : Descriptor} {form : Form}

/-! ### Two handles on files of their own -/

/-- What the handle under a descriptor is told, and the longest mapping that there are
addresses for meanwhile. -/
def tells (who : Descriptor) (ask : Command × Nat) : Turn :=
  ⟨who, .obey ask.1, ask.2⟩

/-- A lookup or a deletion finds something before the first update. -/
def FindsFirst (who : Descriptor) : List (Command × Nat) → Handles → Prop
  | [], _ => True
  | ask :: rest, world =>
      (∀ name value, ask.1 ≠ .perform (.update name value)) ∧
        ((∃ result, world.result? (tells who ask) = some result ∧ result.Found) ∨
          FindsFirst who rest (world.step (tells who ask)))

/-- A handle, and the same one settled on a form, each with a file of its own. -/
structure Mirrors (who : Descriptor) (form : Form) (world world' : Handles) : Prop where
  file : world.file.Matches world'.file
  handle?_eq : world'.handle? who = (world.handle? who).map (·.pinned form)

structure Awaits (who : Descriptor) (form : Form) (asked : List (Command × Nat))
    (world : Handles) (dict : Dictionary) : Prop where
  awaits : dict.Awaits form world.file.image
  chosen : dict.defaultForm = form ∨ dict.encoding = .settled form ∨ FindsFirst who asked world

theorem next?_pinned (command : Command) (dict : Dictionary) (form : Form) :
    command.next? (dict.pinned form) = (command.next? dict).map (·.pinned form) := by
  cases command <;> rfl

theorem lockFor?_pinned (command : Command) (dict : Dictionary) (form : Form) :
    lockFor? (dict.pinned form) command = lockFor? dict command := by
  cases command with
  | perform operation => cases operation <;> rfl
  | _ => rfl

theorem Mirrors.turn (mirrors : world.Mirrors who form world') (ask : Command × Nat)
    (obeyed : ∀ dict, world.user? (tells who ask) = some dict →
      Dictionary.Mirrors form (dict.obey ask.1 world.file)
        ((dict.pinned form).obey ask.1 world'.file)) :
    world'.result? (tells who ask) = world.result? (tells who ask) ∧
      world'.waits (tells who ask) = world.waits (tells who ask) ∧
      (world.step (tells who ask)).Mirrors who form (world'.step (tells who ask)) := by
  have user : world'.user? (tells who ask) =
      (world.user? (tells who ask)).map (·.pinned form) := by
    unfold user? tells
    rw [mirrors.handle?_eq, Option.map_map, Option.map_map]
    rfl
  cases here : world.user? (tells who ask) with
  | none =>
      rw [here] at user
      refine ⟨?_, ?_, ?_⟩
      · unfold result?
        rw [here, user]
        rfl
      · unfold waits
        rw [here, user]
        rfl
      · rw [step_of_absent rfl here, step_of_absent rfl user]
        exact mirrors
  | some dict =>
      rw [here] at user
      obtain ⟨resultEq, dictEq, same⟩ := obeyed dict here
      rcases obeys : dict.obey ask.1 world.file with ⟨result, dict', file⟩
      rcases obeys' : (dict.pinned form).obey ask.1 world'.file with ⟨result', dict'', file'⟩
      rw [obeys, obeys'] at resultEq dictEq same
      change result' = result at resultEq
      change dict'' = dict'.pinned form at dictEq
      obtain ⟨resulted, stepped⟩ := obey_eq rfl here obeys
      obtain ⟨resulted', stepped'⟩ := obey_eq rfl user obeys'
      rw [resultEq] at resulted'
      rw [dictEq] at stepped'
      refine ⟨resulted'.trans resulted.symm, ?_, ?_⟩
      · unfold waits
        rw [here, user, mirrors.file.locks_eq]
        change (dict.flags.lock && (lockFor? (dict.pinned form) ask.1).any _) = _
        rw [lockFor?_pinned]
        rfl
      · rw [stepped, stepped']
        refine ⟨same, ?_⟩
        change Function.update world'.handle? who _ who =
          (Function.update world.handle? who _ who).map _
        rw [Function.update_self, Function.update_self]
        exact next?_pinned ask.1 dict' form

theorem run_append (first second : List Turn) (world : Handles) :
    run (first ++ second) world = run second (run first world) :=
  List.foldl_append

theorem results_append (first second : List Turn) (world : Handles) :
    results (first ++ second) world = results first world ++ results second (run first world) := by
  induction first generalizing world with
  | nil => rfl
  | cons turn rest ih => exact congrArg (List.cons _) (ih (world.step turn))

theorem Mirrors.run_commits (mirrors : world.Mirrors who form world')
    (closing : List (Command × Nat)) (commits : ∀ ask ∈ closing, ask.1.Commits) :
    results (closing.map (tells who)) world' = results (closing.map (tells who)) world ∧
      (run (closing.map (tells who)) world).Mirrors who form
        (run (closing.map (tells who)) world') := by
  induction closing generalizing world world' with
  | nil => exact ⟨rfl, mirrors⟩
  | cons ask rest ih =>
      obtain ⟨resultEq, waitsEq, mirrors'⟩ := mirrors.turn ask fun dict _ =>
        dict.obey_mirrors form mirrors.file (commits ask List.mem_cons_self)
      obtain ⟨resultsEq, last⟩ := ih mirrors' fun ask member =>
        commits ask (List.mem_cons_of_mem _ member)
      refine ⟨?_, last⟩
      change (_, _) :: _ = (_, _) :: _
      rw [resultEq, waitsEq]
      exact congrArg _ resultsEq

theorem Awaits.turn {dict : Dictionary} {ask : Command × Nat} {rest : List (Command × Nat)}
    (awaits : world.Awaits who form (ask :: rest) dict) (free : ask.1.ZeroFree)
    (same : world.file.Matches world'.file)
    (here : world.user? (tells who ask) = some (dict.withRoom ask.2)) :
    (dict.withRoom ask.2).Accords form ((dict.withRoom ask.2).obey ask.1 world.file)
        (((dict.withRoom ask.2).pinned form).obey ask.1 world'.file) ∧
      ∀ dict', (world.step (tells who ask)).handle? who = some dict' →
        (world.step (tells who ask)).Awaits who form rest dict' := by
  have ready := awaits.awaits.withRoom ask.2
  have accords : (dict.withRoom ask.2).Accords form ((dict.withRoom ask.2).obey ask.1 world.file)
      (((dict.withRoom ask.2).pinned form).obey ask.1 world'.file) := by
    refine ready.obey_accords same free fun name value updates => ?_
    rcases awaits.chosen with default | settled | ⟨other, _⟩
    · exact ready.formToWrite_eq (Or.inl default)
    · exact ready.formToWrite_eq (Or.inr settled)
    · exact absurd updates (other name value)
  refine ⟨accords, fun dict' left => ?_⟩
  rcases obeys : (dict.withRoom ask.2).obey ask.1 world.file with ⟨result, last, file⟩
  obtain ⟨resulted, stepped⟩ := obey_eq rfl here obeys
  have continues := accords.continues
  have settles := accords.settles
  rw [obeys] at continues settles
  rw [stepped] at left
  have kept : dict' = last := Dictionary.Command.eq_of_next?
    ((Function.update_self who _ world.handle?).symm.trans left)
  rw [kept]
  constructor
  · rw [stepped]
    exact continues.awaits
  · rcases awaits.chosen with default | settled | ⟨_, found | later⟩
    · exact Or.inl (continues.default_eq.trans default)
    · exact Or.inr (Or.inl (continues.stays settled))
    · obtain ⟨found, foundEq, finds⟩ := found
      rw [resulted] at foundEq
      cases foundEq
      exact Or.inr (Or.inl (settles finds))
    · exact Or.inr (Or.inr later)

/-- Searches, updates and scans come to the same for both while the handle awaits the form. -/
theorem Mirrors.run_asks (mirrors : world.Mirrors who form world') (asked : List (Command × Nat))
    (free : ∀ ask ∈ asked, ask.1.ZeroFree)
    (awaits : ∀ dict, world.handle? who = some dict → world.Awaits who form asked dict) :
    results (asked.map (tells who)) world' = results (asked.map (tells who)) world ∧
      (run (asked.map (tells who)) world).Mirrors who form
        (run (asked.map (tells who)) world') ∧
      ∀ dict, (run (asked.map (tells who)) world).handle? who = some dict →
        dict.Awaits form (run (asked.map (tells who)) world).file.image := by
  induction asked generalizing world world' with
  | nil => exact ⟨rfl, mirrors, fun dict here => (awaits dict here).awaits⟩
  | cons ask rest ih =>
      have freeAsk := free ask List.mem_cons_self
      have user : ∀ dict, world.user? (tells who ask) = some dict →
          ∃ found, world.handle? who = some found ∧ dict = found.withRoom ask.2 := by
        intro dict here
        obtain ⟨found, there, rfl⟩ := Option.map_eq_some_iff.mp here
        exact ⟨found, there, rfl⟩
      obtain ⟨resultEq, waitsEq, mirrors'⟩ := mirrors.turn ask fun dict here => by
        obtain ⟨found, there, rfl⟩ := user dict here
        exact ((awaits found there).turn freeAsk mirrors.file here).1.mirrors
      have awaits' : ∀ dict, (world.step (tells who ask)).handle? who = some dict →
          (world.step (tells who ask)).Awaits who form rest dict := by
        cases here : world.user? (tells who ask) with
        | none =>
            intro dict there
            rw [step_of_absent rfl here] at there
            unfold user? tells at here
            rw [there] at here
            cases here
        | some dict =>
            obtain ⟨found, there, rfl⟩ := user dict here
            exact ((awaits found there).turn freeAsk mirrors.file here).2
      obtain ⟨resultsEq, last⟩ := ih mirrors' (fun ask member =>
        free ask (List.mem_cons_of_mem _ member)) awaits'
      refine ⟨?_, last⟩
      change (_, _) :: _ = (_, _) :: _
      rw [resultEq, waitsEq]
      exact congrArg _ resultsEq

/-! ### Opening -/

def Opening.pinned (opening : Opening) (form : Form) : Opening :=
  { opening with flags := (Encoding.settled form).showIn opening.flags }

theorem Opening.pinned_run (opening : Opening) (form : Form) (room : Nat) (file : SharedFile) :
    (opening.pinned form).run who room file =
      ((opening.run who room file).1.map (·.pinned form), (opening.run who room file).2) := by
  have settles : Encoding.ofFlags ((Encoding.settled form).showIn opening.flags) =
      .settled form := by
    cases form <;> rfl
  unfold Opening.run Opening.pinned
  dsimp only
  cases Dictionary.newSession opening.config with
  | error failure => rfl
  | ok session =>
      unfold Dictionary.open
      dsimp only
      rw [settles]
      have same : session.open (Dictionary.databasePath opening.path)
          (Dictionary.openFlags opening.mode ((Encoding.settled form).showIn opening.flags))
          ((Encoding.settled form).showIn opening.flags).bulk room file.image =
            session.open (Dictionary.databasePath opening.path)
              (Dictionary.openFlags opening.mode opening.flags) opening.flags.bulk room
                file.image := rfl
      rw [same]
      rcases session.open (Dictionary.databasePath opening.path)
        (Dictionary.openFlags opening.mode opening.flags) opening.flags.bulk room file.image with
        ⟨failure | done, session', image⟩
      · rfl
      · rfl

theorem mirrors_of_open {start : Handles} (opening : Opening) (form : Form) (room : Nat)
    (nobody : start.handle? who = none) :
    (start.step ⟨who, .open opening, room⟩).Mirrors who form
      (start.step ⟨who, .open (opening.pinned form), room⟩) := by
  unfold step
  dsimp only
  rw [Opening.pinned_run]
  rcases opening.run who room start.file with ⟨failure | dict, file⟩
  · refine ⟨.refl _, ?_⟩
    change start.handle? who = (start.handle? who).map _
    rw [nobody]
    rfl
  · refine ⟨.refl _, ?_⟩
    change Function.update start.handle? who _ who = (Function.update start.handle? who _ who).map _
    rw [Function.update_self, Function.update_self]
    rfl

theorem awaits_of_open {start : Handles} {opening : Opening} {room : Nat}
    (inForm : start.file.image.InForm form) (nobody : start.handle? who = none)
    (undecided : Encoding.ofFlags opening.flags = .undecided) {asked : List (Command × Nat)}
    (chosen : opening.config.defaultForm = form ∨
      FindsFirst who asked (start.step ⟨who, .open opening, room⟩)) {dict : Dictionary}
    (here : (start.step ⟨who, .open opening, room⟩).handle? who = some dict) :
    (start.step ⟨who, .open opening, room⟩).Awaits who form asked dict := by
  have usable : start.file.image.Usable :=
    inForm.imp_right fun ⟨contents, holds, _⟩ => ⟨contents, holds⟩
  rcases ran : opening.run who room start.file with ⟨failure | found, file⟩
  · unfold step at here
    dsimp only at here
    rw [ran] at here
    rw [nobody] at here
    cases here
  · have stepped : start.step ⟨who, .open opening, room⟩ =
        ⟨file, Function.update start.handle? who (some found)⟩ := by
      unfold step
      dsimp only
      rw [ran]
    rw [stepped] at here chosen ⊢
    change Function.update start.handle? who (some found) who = some dict at here
    rw [Function.update_self] at here
    cases here
    unfold Opening.run at ran
    rcases made : Dictionary.newSession opening.config with failure | session
    · rw [made] at ran
      cases ran
    · rw [made] at ran
      obtain ⟨contents, opened, kept⟩ := Dictionary.open_opened made usable ran
      have stored : ∀ key, contents.records.find? key ≠ none → form.Encodes key := by
        rcases kept with none | ⟨before, holds, same⟩
        · intro key present
          rw [none, Records.find?_empty] at present
          exact absurd rfl present
        · rw [same]
          rcases inForm with nothing | ⟨others, holds', stored⟩
          · exact absurd nothing holds.size_ne_zero
          · rw [holds.unique holds']
            exact stored
      constructor
      · exact Or.inr ⟨opened.encoding_eq.trans undecided, contents,
          .of_idle opened.holds opened.follows opened.idle stored⟩
      · exact chosen.imp (Dictionary.defaultForm_of_open ran).trans Or.inr

/-- On a file with keys of one form, a handle that is undecided gives the same results, and leaves
the same file, as one that was settled on this form at its open. -/
theorem run_pinned {start : Handles} {opening : Opening} {room : Nat}
    (asked closing : List (Command × Nat))
    (inForm : start.file.image.InForm form) (nobody : start.handle? who = none)
    (undecided : Encoding.ofFlags opening.flags = .undecided)
    (free : ∀ ask ∈ asked, ask.1.ZeroFree) (commits : ∀ ask ∈ closing, ask.1.Commits)
    (chosen : opening.config.defaultForm = form ∨
      FindsFirst who asked (start.step ⟨who, .open opening, room⟩)) :
    results ((asked ++ closing).map (tells who))
        (start.step ⟨who, .open (opening.pinned form), room⟩) =
      results ((asked ++ closing).map (tells who)) (start.step ⟨who, .open opening, room⟩) ∧
    (run ((asked ++ closing).map (tells who))
        (start.step ⟨who, .open (opening.pinned form), room⟩)).file.image =
      (run ((asked ++ closing).map (tells who))
        (start.step ⟨who, .open opening, room⟩)).file.image ∧
    ∀ dict, (run (asked.map (tells who)) (start.step ⟨who, .open opening, room⟩)).handle? who =
      some dict → dict.encoding = .undecided ∨ dict.encoding = .settled form := by
  obtain ⟨resultsEq, mirrors, awaits⟩ := (mirrors_of_open opening form room nobody).run_asks asked
    free fun dict here => awaits_of_open inForm nobody undecided chosen here
  obtain ⟨resultsEq', mirrors'⟩ := mirrors.run_commits closing commits
  rw [List.map_append, results_append, results_append, run_append, run_append, resultsEq,
    resultsEq']
  refine ⟨rfl, mirrors'.file.image_eq, fun dict here => ?_⟩
  rcases awaits dict here with settled | ⟨undecided, _⟩
  · exact Or.inr settled
  · exact Or.inl undecided

def bareStored : List Turn :=
  [opens 3 .create {}, updates 3 "a" [49]]

/-- A bulk handle that folds case and is undecided. It writes the terminated form by default. -/
def foldingOpening : Opening :=
  ⟨"t", .readWrite, { foldCase := true, bulk := true, tryTerminated := true, tryBare := true },
    { mapSize := 4096, defaultForm := .terminated }, Owner.ofUser 0, none, 0⟩

def lookedUpFirst : List (Command × Nat) :=
  [(.perform (.delete "c"), 65536), (.scan .first, 65536), (.perform (.lookup "A"), 65536),
    (.perform (.update "B" [50]), 65536), (.perform (.delete "a"), 65536)]

def published : List (Command × Nat) :=
  [(.commit, 65536)]

set_option maxRecDepth 20000 in
theorem run_pinned_lookedUpFirst :
    (results ((lookedUpFirst ++ published).map (tells 4))
        ((run bareStored untouched).step ⟨4, .open (foldingOpening.pinned .bare), 65536⟩)).map
          (·.1) =
      [some (.answered (.ok (.deleted false))), some (.scanned (.ok (some ([97], [49])))),
        some (.answered (.ok (.value (some [49])))), some (.answered (.ok (.updated .stored))),
        some (.answered (.ok (.deleted true))), some (.committed (.ok ()))] ∧
    (run ((lookedUpFirst ++ published).map (tells 4))
        ((run bareStored untouched).step
          ⟨4, .open (foldingOpening.pinned .bare), 65536⟩)).file.image.committed =
      .ok (Records.empty.insert [98] [50]) := by
  have sound : Along step Sound bareStored untouched :=
    ⟨rfl, sound_of_mapped 4096 rfl (by decide +kernel) (by decide +kernel), trivial⟩
  have stored : (run bareStored untouched).file.image.committed =
      .ok (Records.empty.insert [97] [49]) := by
    decide +kernel
  have inForm : (run bareStored untouched).file.image.InForm .bare := by
    rcases (created_of_usable (Or.inl rfl) fun _ => rfl).run (by decide) sound with
      ⟨nothing, _⟩ | ⟨contents, valid⟩
    · exact Or.inl nothing
    · refine Or.inr ⟨contents, valid.holds, fun key present => ?_⟩
      rw [valid.holds.committed_eq] at stored
      rw [Except.ok.inj stored, Records.find?_insert] at present
      split at present
      · next same => exact ⟨[97], same, by decide⟩
      · exact absurd rfl present
  have found : ∃ result, ((((run bareStored untouched).step ⟨4, .open foldingOpening, 65536⟩).step
      (tells 4 (.perform (.delete "c"), 65536))).step (tells 4 (.scan .first, 65536))).result?
        (tells 4 (.perform (.lookup "A"), 65536)) = some result ∧ result.Found :=
    ⟨.answered (.ok (.value (some [49]))), by decide +kernel, trivial⟩
  have free : ∀ ask ∈ lookedUpFirst, ask.1.ZeroFree := by
    have letters : ∀ name ∈ ["c", "A", "B", "a"], 0 ∉ Bytes.ofText name := by decide +kernel
    simp only [lookedUpFirst, List.forall_mem_cons]
    exact ⟨letters _ (by decide), trivial, letters _ (by decide), letters _ (by decide),
      letters _ (by decide), nofun⟩
  have commits : ∀ ask ∈ published, ask.1.Commits := List.forall_mem_cons.mpr ⟨trivial, nofun⟩
  obtain ⟨resultsEq, imageEq, _⟩ := run_pinned lookedUpFirst published inForm (by decide +kernel)
    rfl free commits (Or.inr ⟨nofun, Or.inr ⟨nofun, Or.inr ⟨nofun, Or.inl found⟩⟩⟩)
  rw [resultsEq, imageEq]
  constructor
  · decide +kernel
  · decide +kernel

end Handles

end RecordFile
