import Mathlib.Data.List.Basic
import Mathlib.Data.List.Induction

/-! # Records whose fields are overwritten one at a time

A record is written field by field, and a write decides its own field only. What
a field reads after a list of writes is then its last write, so two lists that
write every field last in the same way produce the same record, however they
interleave or repeat the writes of different fields.
-/

namespace M3Midi.Foundation

variable {Key Value Reading Record : Type*}

/-- Fields that are written and read independently of each other. To write one and read it gives
what was written, in its stored form. To write one and read another changes nothing. -/
structure Fields (Key Value Reading Record : Type*) where
  write : Key → Value → Record → Record
  read : Key → Record → Reading
  /-- What a field reads once a value is written to it. -/
  stored : Key → Value → Reading
  read_write_self : ∀ key value record, read key (write key value record) = stored key value
  read_write_other : ∀ key other value record, other ≠ key →
    read other (write key value record) = read other record
  /-- A record is what its fields read. -/
  ext : ∀ first second, (∀ key, read key first = read key second) → first = second

/-- The last value a list writes to a key. -/
def lastWrite [DecidableEq Key] (key : Key) : List (Key × Value) → Option Value
  | [] => none
  | (target, value) :: rest =>
      match lastWrite key rest with
      | some later => some later
      | none => if target = key then some value else none

section LastWrite

variable [DecidableEq Key]

/-- The last write of two logs is that of the second, or else that of the first. -/
theorem lastWrite_append (key : Key) (first second : List (Key × Value)) :
    lastWrite key (first ++ second) = (lastWrite key second).or (lastWrite key first) := by
  induction first with
  | nil => cases written : lastWrite key second <;> simp [lastWrite, written]
  | cons entry rest ih =>
      obtain ⟨target, value⟩ := entry
      rw [List.cons_append, lastWrite, lastWrite, ih]
      cases lastWrite key second <;> rfl

/-- Only the entries of a key decide its last write. -/
theorem lastWrite_filter (key : Key) (entries : List (Key × Value)) :
    lastWrite key (entries.filter fun entry => entry.1 = key) = lastWrite key entries := by
  induction entries with
  | nil => rfl
  | cons entry rest ih =>
      obtain ⟨target, value⟩ := entry
      by_cases same : target = key
      · rw [List.filter_cons_of_pos (by simpa using same), lastWrite, lastWrite, ih]
      · rw [List.filter_cons_of_neg (by simpa using same), lastWrite, ih, if_neg same]
        cases lastWrite key rest <;> rfl

/-- The last write is the value of the last entry of the key. -/
theorem lastWrite_eq_getLast? (key : Key) (entries : List (Key × Value)) :
    lastWrite key entries = ((entries.filter fun entry => entry.1 = key).getLast?).map (·.2) := by
  induction entries using List.reverseRecOn with
  | nil => rfl
  | append_singleton rest entry ih =>
      obtain ⟨target, value⟩ := entry
      rw [lastWrite_append, List.filter_append]
      by_cases same : target = key
      · simp [lastWrite, same]
      · simp [lastWrite, same, ih]

/-- A last write is one of the writes. -/
theorem mem_of_lastWrite {key : Key} {value : Value} {entries : List (Key × Value)}
    (written : lastWrite key entries = some value) : (key, value) ∈ entries := by
  induction entries with
  | nil => simp [lastWrite] at written
  | cons entry rest ih =>
      obtain ⟨target, first⟩ := entry
      rw [lastWrite] at written
      cases later : lastWrite key rest with
      | some last =>
          rw [later] at written
          exact List.mem_cons_of_mem _ (ih (later.trans written))
      | none =>
          rw [later] at written
          simp only [Option.ite_none_right_eq_some, Option.some.injEq] at written
          rw [written.1, written.2]
          exact List.mem_cons_self

/-- Converting the values converts the last writes, when every value converts. -/
theorem lastWrite_filterMap {Other : Type*} (convert : Key → Value → Option Other) (key : Key)
    {entries : List (Key × Value)} (converts : ∀ entry ∈ entries, (convert entry.1 entry.2).isSome) :
    lastWrite key (entries.filterMap fun entry =>
      (convert entry.1 entry.2).map fun value => (entry.1, value)) =
      (lastWrite key entries).bind (convert key) := by
  induction entries with
  | nil => rfl
  | cons entry rest ih =>
      obtain ⟨target, value⟩ := entry
      obtain ⟨head, tail⟩ := List.forall_mem_cons.mp converts
      obtain ⟨converted, found⟩ := Option.isSome_iff_exists.mp head
      rw [List.filterMap_cons_some (by rw [found]; rfl), lastWrite, lastWrite, ih tail]
      cases written : lastWrite key rest with
      | some later =>
          have member := mem_of_lastWrite written
          obtain ⟨last, lastFound⟩ := Option.isSome_iff_exists.mp (tail _ member)
          simp only [Option.bind_some]
          change (match convert key later with | some l => some l | none => _) = _
          rw [lastFound]
      | none =>
          by_cases same : target = key
          · subst same
            simpa using found.symm
          · simp [same]

/-- In a table whose values depend on their keys alone, a key reads its own value. -/
theorem lastWrite_table (value : Key → Option Value) (key : Key) (keys : List Key) :
    lastWrite key (keys.filterMap fun target => (value target).map fun found => (target, found)) =
      if key ∈ keys then value key else none := by
  induction keys with
  | nil => rfl
  | cons target rest ih =>
      cases found : value target with
      | none =>
          rw [List.filterMap_cons_none (by rw [found]; rfl), ih]
          by_cases same : key = target
          · subst same
            simp [found]
          · simp [same]
      | some written =>
          rw [List.filterMap_cons_some (by rw [found]; rfl), lastWrite, ih]
          by_cases same : key = target
          · subst same
            by_cases member : key ∈ rest <;> simp [member, found]
          · by_cases member : key ∈ rest
            · cases value key <;> simp [same, member, Ne.symm same]
            · simp [same, member, Ne.symm same]

end LastWrite

namespace Fields

variable (fields : Fields Key Value Reading Record)

/-- All writes of a list, in order. -/
def writeAll (record : Record) (entries : List (Key × Value)) : Record :=
  entries.foldl (fun current entry => fields.write entry.1 entry.2 current) record

/-- Two logs are written one after the other. -/
theorem writeAll_append (record : Record) (first second : List (Key × Value)) :
    fields.writeAll record (first ++ second) =
      fields.writeAll (fields.writeAll record first) second :=
  List.foldl_append

variable [DecidableEq Key]

/-- A field reads its last write, or what it read before. -/
theorem read_writeAll (record : Record) (entries : List (Key × Value)) (key : Key) :
    fields.read key (fields.writeAll record entries) =
      ((lastWrite key entries).map (fields.stored key)).getD (fields.read key record) := by
  induction entries generalizing record with
  | nil => rfl
  | cons entry rest ih =>
      obtain ⟨target, value⟩ := entry
      change fields.read key (fields.writeAll (fields.write target value record) rest) = _
      rw [ih, lastWrite]
      cases lastWrite key rest with
      | some later => rfl
      | none =>
          by_cases same : target = key
          · subst same
            simpa using fields.read_write_self target value record
          · simpa [same] using fields.read_write_other target key value record (Ne.symm same)

/-- Lists with the same last writes write the same record. -/
theorem writeAll_congr {first second : List (Key × Value)}
    (same : ∀ key, lastWrite key first = lastWrite key second) (record : Record) :
    fields.writeAll record first = fields.writeAll record second := by
  refine fields.ext _ _ fun key => ?_
  rw [read_writeAll, read_writeAll, same key]

end Fields

end M3Midi.Foundation
