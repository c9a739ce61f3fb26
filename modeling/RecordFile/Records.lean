/-
The records of a database: byte-string values under byte-string keys, in strictly
ascending key order.

The order is part of the type, so each set of bindings has one representation and the
look-up by key determines it. No operation here knows about space in a file.
-/

import RecordFile.Bytes

namespace RecordFile

abbrev Record := Bytes × Bytes

def Ascending (records : List Record) : Prop :=
  records.Pairwise fun first second => first.1 < second.1

structure Records where
  toList : List Record
  ascending : Ascending toList

namespace Records

instance : DecidableEq Records := fun left right =>
  decidable_of_iff (left.toList = right.toList) (by
    constructor
    · intro same
      cases left
      cases right
      cases same
      rfl
    · exact congrArg toList)

def empty : Records :=
  ⟨[], List.Pairwise.nil⟩

instance : Inhabited Records := ⟨empty⟩

def size (records : Records) : Nat :=
  records.toList.length

def isEmpty (records : Records) : Bool :=
  records.toList.isEmpty

def find? (records : Records) (key : Bytes) : Option Bytes :=
  (records.toList.find? (·.1 == key)).map (·.2)

def first? (records : Records) : Option Record :=
  records.toList.head?

def after? (records : Records) (key : Bytes) : Option Record :=
  records.toList.find? fun record => decide (key < record.1)

/-- Insert into an ascending list, replacing the value of a key already there. -/
def insertInto (key value : Bytes) : List Record → List Record
  | [] => [(key, value)]
  | record :: rest =>
      if key < record.1 then (key, value) :: record :: rest
      else if key = record.1 then (key, value) :: rest
      else record :: insertInto key value rest

theorem mem_insertInto {key value : Bytes} {record : Record} {records : List Record}
    (member : record ∈ insertInto key value records) :
    record = (key, value) ∨ record ∈ records := by
  induction records with
  | nil => simpa [insertInto] using member
  | cons head rest ih =>
      unfold insertInto at member
      split at member
      · simpa using member
      · split at member
        · rcases List.mem_cons.mp member with same | old
          · exact Or.inl same
          · exact Or.inr (List.mem_cons_of_mem _ old)
        · rcases List.mem_cons.mp member with same | deeper
          · exact Or.inr (same ▸ List.mem_cons_self)
          · exact (ih deeper).imp_right (List.mem_cons_of_mem _)

theorem ascending_insertInto (key value : Bytes) {records : List Record}
    (ascending : Ascending records) : Ascending (insertInto key value records) := by
  induction records with
  | nil => exact List.pairwise_singleton _ _
  | cons head rest ih =>
      have above : ∀ {record : Record}, record ∈ rest → head.1 < record.1 :=
        List.rel_of_pairwise_cons ascending
      have tail : Ascending rest := ascending.of_cons
      unfold insertInto
      split
      · next before =>
          refine List.pairwise_cons.mpr ⟨?_, ascending⟩
          intro record member
          rcases List.mem_cons.mp member with rfl | deeper
          · exact before
          · exact Bytes.lt_trans before (above deeper)
      · next notBefore =>
          split
          · next same =>
              refine List.pairwise_cons.mpr ⟨?_, tail⟩
              intro record member
              exact same ▸ above member
          · next different =>
              refine List.pairwise_cons.mpr ⟨?_, ih tail⟩
              intro record member
              rcases mem_insertInto member with rfl | old
              · exact Bytes.lt_of_not_lt_of_ne notBefore different
              · exact above old

def insert (records : Records) (key value : Bytes) : Records :=
  ⟨insertInto key value records.toList, ascending_insertInto key value records.ascending⟩

def erase (records : Records) (key : Bytes) : Records :=
  ⟨records.toList.filter (·.1 != key), records.ascending.filter _⟩

def ofList (records : List Record) : Records :=
  records.foldl (fun all record => all.insert record.1 record.2) empty

end Records

end RecordFile
