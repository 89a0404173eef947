import Melibea.Library.Binary64
import Mathlib.Data.List.Nodup

/-! JSON values as a streaming deserializer meets them, and the rules of derived deserializers. What
the error of a failed reading says is not described. -/

namespace Melibea.Library

-- `unreadable` stands for text that can be skipped as a value but not read as one: an unpaired
-- surrogate, a number out of range, nesting beyond the recursion limit.
inductive Json
  | null
  | bool (value : Bool)
  | unsigned (value : UInt64)
  | negative (value : Int64)
  | float (value : Binary64)
  | string (value : String)
  | array (items : List Json)
  | object (members : List (String × Json))
  | unreadable

namespace Json

mutual

def isReadable : Json → Bool
  | .unreadable => false
  | .array items => areReadable items
  | .object members => membersReadable members
  | _ => true

def areReadable : List Json → Bool
  | [] => true
  | item :: items => item.isReadable && areReadable items

def membersReadable : List (String × Json) → Bool
  | [] => true
  | (_, value) :: members => value.isReadable && membersReadable members

end

def asU64 : Json → Option UInt64
  | .unsigned value => some value
  | _ => none

def asU32 : Json → Option UInt32
  | .unsigned value => if value.toNat < 2 ^ 32 then some value.toUInt32 else none
  | _ => none

def asUsize (json : Json) : Option ℕ := json.asU64.map UInt64.toNat

def asF64 : Json → Option Binary64
  | .unsigned value => some (.ofUnits false (value.toNat * 2 ^ 1074))
  | .negative value => some (.ofUnits true (value.toInt.natAbs * 2 ^ 1074))
  | .float value => some value
  | _ => none

def asString : Json → Option String
  | .string value => some value
  | _ => none

variable {α : Type}

def asOption (read : Json → Option α) : Json → Option (Option α)
  | .null => some none
  | json => (read json).map some

def asVec (read : Json → Option α) : Json → Option (List α)
  | .array items => items.mapM read
  | _ => none

-- What a struct finds for one of its fields. Only an object can leave out a field that is
-- optional without a default; a sequence that is too short cannot.
inductive Slot
  | present (value : Json)
  | absent
  | short

def fields (names : List String) (denyUnknown : Bool) : Json → Option (String → Slot)
  | .object members =>
    if names.any fun name => 1 < members.countP (·.1 == name) then none
    else if denyUnknown && members.any fun member => !names.contains member.1 then none
    else some fun name => (members.lookup name).elim .absent .present
  | .array items =>
    if names.length < items.length then none
    else some fun name => items[names.idxOf name]?.elim .short .present
  | _ => none

def Slot.required (read : Json → Option α) : Slot → Option α
  | .present value => read value
  | .absent | .short => none

def Slot.optional (read : Json → Option α) : Slot → Option (Option α)
  | .present value => asOption read value
  | .absent => some none
  | .short => none

def Slot.defaulted (default : α) (read : Json → Option α) : Slot → Option α
  | .present value => read value
  | .absent | .short => some default

-- Buffered content also names a variant by its index.
def variant (names : List String) (buffered : Bool) : Json → Option String
  | .string name => if names.contains name then some name else none
  | .unsigned index => if buffered then names[index.toNat]? else none
  | _ => none

def tagged (tag : String) (names : List String) (buffered : Bool) : Json → Option (String × Json)
  | .object members =>
    match members.filter (·.1 == tag) with
    | [(_, value)] => do
      let name ← variant names buffered value
      let content := Json.object (members.filter (·.1 != tag))
      if content.isReadable then some (name, content) else none
    | _ => none
  | .array (value :: items) => do
    let name ← variant names buffered value
    if areReadable items then some (name, .array items) else none
  | _ => none

-- A unit variant of an internally tagged enum ignores whatever else an object holds.
def asUnitContent : Json → Option Unit
  | .object _ | .array [] => some ()
  | _ => none

def asUnitVariant (names : List String) : Json → Option String
  | .string name | .object [(name, .null)] | .object [(name, .object [])] =>
    if names.contains name then some name else none
  | _ => none

lemma lookup_eq_some_of_fields {names : List String} {deny : Bool}
    {members : List (String × Json)} {slot : String → Slot}
    (h : fields names deny (.object members) = some slot) (name : String) :
    slot name = (members.lookup name).elim .absent .present := by
  rw [fields] at h
  split_ifs at h
  exact congrFun (Option.some.inj h).symm name

lemma asU32_unsigned (version : UInt32) : asU32 (.unsigned version.toUInt64) = some version := by
  have hlt : version.toUInt64.toNat < 2 ^ 32 := by simpa using version.toNat_lt
  rw [asU32, if_pos hlt]
  simp

section Members

variable {members : List (String × Json)}

lemma countP_key_le_one (hkeys : (members.map Prod.fst).Nodup) (name : String) :
    members.countP (·.1 == name) ≤ 1 := by
  have h := List.nodup_iff_count_le_one.mp hkeys name
  rwa [List.count, List.countP_map] at h

lemma fields_object {names : List String} {deny : Bool} (hkeys : (members.map Prod.fst).Nodup)
    (hnames : ∀ name ∈ members.map Prod.fst, name ∈ names) :
    fields names deny (.object members) =
      some fun name => (members.lookup name).elim .absent .present := by
  have hknown : members.any (fun member => !names.contains member.1) = false := by
    rw [List.any_eq_false]
    intro member hm
    simpa using hnames _ (List.mem_map_of_mem hm)
  rw [fields, if_neg (by simpa using fun name _ => countP_key_le_one hkeys name), hknown]
  simp

lemma lookup_of_mem {name : String} {value : Json}
    (hcount : members.countP (·.1 == name) ≤ 1) (h : (name, value) ∈ members) :
    members.lookup name = some value := by
  induction members with
  | nil => cases h
  | cons member members ih =>
    obtain ⟨key, first⟩ := member
    by_cases hkey : key = name
    · subst hkey
      rw [List.countP_cons_of_pos (by simp)] at hcount
      have hnone : members.countP (·.1 == key) = 0 := by omega
      rcases List.mem_cons.mp h with he | h
      · rw [List.lookup_cons_self, (Prod.mk.inj he).2]
      · exact absurd (by simp) (List.countP_eq_zero.mp hnone (key, value) h)
    · rw [List.countP_cons_of_neg (by simpa using hkey)] at hcount
      have hlookup : List.lookup name ((key, first) :: members) = members.lookup name := by
        rw [List.lookup_cons, (by simpa using Ne.symm hkey : (name == key) = false)]
      rw [hlookup]
      refine ih hcount ((List.mem_cons.mp h).resolve_left fun he => hkey ?_)
      exact (Prod.mk.inj he).1.symm

lemma slot_of_fields {names : List String} {deny : Bool} {slot : String → Slot}
    (h : fields names deny (.object members) = some slot) {name : String} (hn : name ∈ names)
    {value : Json} (hm : (name, value) ∈ members) : slot name = .present value := by
  rw [lookup_eq_some_of_fields h, lookup_of_mem ?_ hm]
  · rfl
  · rw [fields] at h
    split_ifs at h with hdup
    simp only [List.any_eq_true, decide_eq_true_eq, not_exists, not_and, Nat.not_lt] at hdup
    exact hdup name hn

lemma tagged_object {tag : String} {names : List String} {buffered : Bool} {name : String}
    {content : Json} (h : tagged tag names buffered (.object members) = some (name, content))
    {value : Json} (hm : (tag, value) ∈ members) :
    variant names buffered value = some name ∧
      content = .object (members.filter (·.1 != tag)) := by
  rw [tagged] at h
  split at h
  · next key other hf =>
    have hmem : (tag, value) ∈ members.filter (·.1 == tag) := List.mem_filter.mpr ⟨hm, by simp⟩
    rw [hf] at hmem
    obtain rfl : value = other := (Prod.mk.inj (List.mem_singleton.mp hmem)).2
    simp only [bind, Option.bind_eq_some_iff] at h
    obtain ⟨name', hv, h⟩ := h
    split_ifs at h
    obtain ⟨rfl, rfl⟩ := Prod.mk.inj (Option.some.inj h)
    exact ⟨hv, rfl⟩
  · cases h

end Members

end Json

end Melibea.Library
