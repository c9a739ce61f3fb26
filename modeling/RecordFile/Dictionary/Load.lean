/-
Filling a dictionary in one go.

A routine fills the dictionary and what it wrote is committed. When the map is full the
bulk transaction is lost and the map has grown, so the routine runs again from the start.
Any other failure ends the load. The routine carries a state of its own from run to run.
-/

import RecordFile.Dictionary.Basic

namespace RecordFile.Dictionary

abbrev Routine (σ : Type) :=
  σ → Dictionary → SharedFile → Except DictionaryError Unit × σ × Dictionary × SharedFile

def replayLimit : Nat := 128

def fillAndCommit {σ : Type} (fill : Routine σ) : Routine σ :=
  fun state dict file =>
    match fill state dict file with
    | (.error failure, after) => (.error failure, after)
    | (.ok (), state, dict, file) =>
        match dict.commit file with
        | (result, dict, file) => (result, state, dict, file)

def loadFrom {σ : Type} (fill : Routine σ) (replays : Nat) :
    (budget : Nat) → σ → Dictionary → SharedFile →
      Except DictionaryError Nat × σ × Dictionary × SharedFile
  | budget, state, dict, file =>
      match fillAndCommit fill state dict file with
      | (.ok (), after) => (.ok replays, after)
      | (.error failure, state, dict, file) =>
          if failure.isRetry then
            match budget with
            | 0 =>
                (.error failure, state,
                  dict.note ⟨.warn, s!"{dict.label}: bulk load replay limit reached"⟩, file)
            | budget + 1 => loadFrom fill (replays + 1) budget state dict file
          else (.error failure, state, dict, file)

/-- Fill and commit, replaying as often as the map had to grow. The answer is the number of
replays. -/
def load {σ : Type} (fill : Routine σ) (state : σ) (dict : Dictionary) (file : SharedFile) :
    Except DictionaryError Nat × σ × Dictionary × SharedFile :=
  loadFrom fill 0 replayLimit state dict file

end RecordFile.Dictionary
