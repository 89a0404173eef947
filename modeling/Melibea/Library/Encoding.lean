import Melibea.Library.Json

/-! Writers of JSON whose readers take back what was written. -/

namespace Melibea.Library

open Json

variable {α : Type}

structure Carries (write : α → Json) (read : Json → Option α) (a : α) : Prop where
  reads : read (write a) = some a
  readable : (write a).isReadable = true

namespace Carries

variable {write : α → Json} {read : Json → Option α}

lemma inj {a b : α} (ha : Carries write read a) (hb : Carries write read b)
    (h : write a = write b) : a = b := by
  have hread := ha.reads
  rw [h, hb.reads] at hread
  exact (Option.some.inj hread).symm

lemma u64 (value : UInt64) : Carries .unsigned asU64 value := ⟨rfl, rfl⟩

lemma u32 (value : UInt32) : Carries (fun value => .unsigned value.toUInt64) asU32 value :=
  ⟨asU32_unsigned value, rfl⟩

lemma string (value : String) : Carries .string asString value := ⟨rfl, rfl⟩

lemma mapM_map {values : List α} (h : ∀ a ∈ values, Carries write read a) :
    (values.map write).mapM read = some values := by
  induction values with
  | nil => rfl
  | cons a values ih =>
    rw [List.map_cons, List.mapM_cons, (h a (by simp)).reads,
      ih fun b hb => h b (List.mem_cons_of_mem _ hb)]
    rfl

lemma areReadable_map {values : List α} (h : ∀ a ∈ values, Carries write read a) :
    areReadable (values.map write) = true := by
  induction values with
  | nil => rfl
  | cons a values ih =>
    rw [List.map_cons, areReadable, (h a (by simp)).readable,
      ih fun b hb => h b (List.mem_cons_of_mem _ hb)]
    rfl

lemma vec {values : List α} (h : ∀ a ∈ values, Carries write read a) :
    Carries (fun values => .array (values.map write)) (asVec read) values :=
  ⟨mapM_map h, areReadable_map h⟩

lemma asOption (h : ∀ a, Carries write read a) (hnull : ∀ a, write a ≠ .null) (a : α) :
    Json.asOption read (write a) = some (some a) := by
  unfold Json.asOption
  split
  · next he => exact absurd he (hnull a)
  · rw [(h a).reads]
    rfl

end Carries

lemma tagged_object_cons {tag name : String} {names : List String}
    {members : List (String × Json)} (hname : name ∈ names) (htag : tag ∉ members.map Prod.fst)
    (hread : membersReadable members = true) (buffered : Bool) :
    tagged tag names buffered (.object ((tag, .string name) :: members)) =
      some (name, .object members) := by
  have hnone : members.filter (·.1 == tag) = [] := by
    rw [List.filter_eq_nil_iff]
    intro member hm he
    exact htag (List.mem_map.mpr ⟨member, hm, by simpa using he⟩)
  have hall : members.filter (·.1 != tag) = members := by
    rw [List.filter_eq_self]
    intro member hm
    simpa using fun he => htag (List.mem_map.mpr ⟨member, hm, he⟩)
  simp [tagged, hnone, hall, variant, hname, isReadable, hread]

lemma fields_bind {names : List String} {deny : Bool} {members : List (String × Json)}
    (hkeys : (members.map Prod.fst).Nodup) (hnames : ∀ name ∈ members.map Prod.fst, name ∈ names)
    (rest : (String → Slot) → Option α) :
    (fields names deny (.object members) >>= rest) =
      rest fun name => (members.lookup name).elim .absent .present := by
  rw [fields_object hkeys hnames]
  rfl

lemma Carries.tagged {write : α → Json} {read : Json → Option α} {a : α} {tag name : String}
    {members : List (String × Json)} (hwrite : write a = .object ((tag, .string name) :: members))
    (htag : tag ∉ members.map Prod.fst) (hread : membersReadable members = true)
    (h : (∀ {names : List String} {buffered : Bool} {rest : String × Json → Option α},
        name ∈ names →
        (Json.tagged tag names buffered (.object ((tag, .string name) :: members)) >>= rest) =
          rest (name, .object members)) →
      read (.object ((tag, .string name) :: members)) = some a) :
    Carries write read a := by
  constructor
  · rw [hwrite]
    refine h fun hname => ?_
    rw [tagged_object_cons hname htag hread]
    rfl
  · rw [hwrite, isReadable, membersReadable, hread]
    rfl

end Melibea.Library
