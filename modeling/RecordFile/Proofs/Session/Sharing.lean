/-
Any number of sessions on one file, in any order of calls.

A call takes the file and one session to the next state of both. The other sessions stay as
they are and are only older afterwards. While no call cuts back, every session follows the
file.
-/

import RecordFile.Proofs.Parties
import RecordFile.Proofs.Session.Bulk

namespace RecordFile

/-! ### Fresh sessions -/

def Session.Fresh (session : Session) : Prop :=
  ∃ (config : SessionConfig) (base : Session) (controls : List Control),
    Session.init config = .ok base ∧ session = controls.foldl Session.control base

namespace Session

variable {session : Session}

theorem Closed.control (closed : session.Closed) (request : Control) :
    (session.control request).Closed := by
  cases request with
  | apiRetryLimit limit => exact ⟨closed.valid, closed.noEnv, closed.idle⟩
  | bulkRetryLimit limit => exact ⟨closed.valid, closed.noEnv, closed.idle⟩
  | notify => exact ⟨closed.valid, closed.noEnv, closed.idle⟩

theorem bulk_control (session : Session) (request : Control) :
    (session.control request).bulk = session.bulk := by
  cases request with
  | apiRetryLimit limit => rfl
  | bulkRetryLimit limit => rfl
  | notify => rfl

theorem Fresh.closed (fresh : session.Fresh) : session.Closed ∧ session.bulk = false := by
  obtain ⟨config, base, controls, made, rfl⟩ := fresh
  obtain ⟨valid, configEq, noEnv, idle, single⟩ := init_eq_ok made
  have closed : base.Closed := ⟨configEq ▸ valid, noEnv, idle⟩
  clear made valid configEq noEnv idle
  induction controls generalizing base with
  | nil => exact ⟨closed, single⟩
  | cons request rest ih =>
      exact ih (base.control request) ((base.bulk_control request).trans single)
        (closed.control request)

end Session

def Session.idle (config : SessionConfig) : Session where
  config := config
  env? := none
  bulk := false
  pending? := none
  bulkRetries := 0
  apiRetryLimit := Session.defaultApiRetryLimit
  bulkRetryLimit := Session.defaultBulkRetryLimit
  listening := false
  notifications := []
  cursor? := none

theorem Session.fresh_idle {config : SessionConfig} (valid : config.Valid) :
    (Session.idle config).Fresh := by
  refine ⟨config, Session.idle config, [], ?_, rfl⟩
  have sized : ¬ (config.initialMapSize < Layout.minimumMapSize ∨
      config.maxMapSize < config.initialMapSize) := by
    rintro (less | less)
    · exact UInt64.not_lt.mpr valid.minimum_le less
    · exact UInt64.not_lt.mpr valid.initial_le less
  unfold Session.init
  rw [if_neg (UInt64.not_lt.mpr valid.two_le), if_neg sized]
  rfl

structure Sessions where
  file : Image
  session : Nat → Session

namespace Sessions

open Session (Call Reply Lands)

/-! ### Calls -/

structure Request where
  who : Nat
  call : Call
  room : Nat

def caller (world : Sessions) (request : Request) : Session :=
  (world.session request.who).withRoom request.room

def outcome (world : Sessions) (request : Request) : Reply × Session × Image :=
  (world.caller request).act request.call request.room world.file

def reply (world : Sessions) (request : Request) : Reply :=
  (world.outcome request).1

def step (world : Sessions) (request : Request) : Sessions where
  file := (world.outcome request).2.2
  session := Function.update world.session request.who (world.outcome request).2.1

def run (requests : List Request) (world : Sessions) : Sessions :=
  requests.foldl step world

variable {world : Sessions} {requests : List Request}

/-! ### What one call preserves -/

structure Valid (world : Sessions) (contents : Contents) (age : Nat) : Prop where
  holds : world.file.Holds contents
  follows : ∀ who, (world.session who).Follows contents age

variable {contents after : Contents} {age bumps : Nat} {call : Call}
  {file : Image} {outcome : Reply × Session × Image}

theorem Valid.land (valid : Valid ⟨file, world.session⟩ contents age)
    (lands : Lands call file contents age outcome bumps after) (who : Nat) :
    Valid ⟨outcome.2.2, Function.update world.session who outcome.2.1⟩ after (age + 1) where
  holds := lands.advances.holds
  follows := by
    have later : age + bumps ≤ age + 1 := Nat.add_le_add_left lands.once age
    apply (Function.forall_update_iff world.session fun _ found =>
      found.Follows after (age + 1)).mpr
    constructor
    · exact lands.follows.mono later
    · intro other _
      exact ((valid.follows other).advance lands.advances).mono later

theorem Valid.lands (valid : world.Valid contents age) {request : Request}
    (safe : ¬ (world.caller request).CutsBack request.call world.file) :
    ∃ bumps after,
      Lands request.call world.file contents age (world.outcome request) bumps after :=
  Session.act_lands valid.holds ((valid.follows request.who).withRoom request.room)
    request.call request.room safe

end Sessions

end RecordFile
