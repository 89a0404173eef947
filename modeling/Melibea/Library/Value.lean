import Melibea.Library.Json

/-! JSON read into a value first, which holds the last member of each name. -/

namespace Melibea.Library.Json

def lastMembers : List (String × Json) → List (String × Json)
  | [] => []
  | (name, value) :: members =>
    if members.any (·.1 == name) then lastMembers members
    else (name, value) :: lastMembers members

mutual

def normalize : Json → Json
  | .array items => .array (normalizeItems items)
  | .object members => .object (lastMembers (normalizeMembers members))
  | json => json

def normalizeItems : List Json → List Json
  | [] => []
  | item :: items => item.normalize :: normalizeItems items

def normalizeMembers : List (String × Json) → List (String × Json)
  | [] => []
  | (name, value) :: members => (name, value.normalize) :: normalizeMembers members

end

def asValue (json : Json) : Option Json := if json.isReadable then some json.normalize else none

def asBool : Json → Option Bool
  | .bool value => some value
  | _ => none

def asValueVariant (names : List String) : Json → Option String
  | .string name | .object [(name, .null)] => if names.contains name then some name else none
  | _ => none

lemma normalizeItems_eq (items : List Json) : normalizeItems items = items.map normalize := by
  induction items with
  | nil => rfl
  | cons item items ih => rw [normalizeItems, ih, List.map_cons]

lemma normalizeMembers_eq (members : List (String × Json)) :
    normalizeMembers members = members.map (Prod.map id normalize) := by
  induction members with
  | nil => rfl
  | cons member members ih => rw [normalizeMembers, ih, List.map_cons, Prod.map, id]

lemma map_fst_normalizeMembers (members : List (String × Json)) :
    (normalizeMembers members).map Prod.fst = members.map Prod.fst := by
  rw [normalizeMembers_eq, List.map_map]
  rfl

def member (members : List (String × Json)) (name : String) : Option Json :=
  members.reverse.lookup name

lemma member_cons (name other : String) (value : Json) (members : List (String × Json)) :
    member ((name, value) :: members) other =
      (member members other).or (if other == name then some value else none) := by
  rw [member, List.reverse_cons, List.lookup_append, List.lookup_cons, List.lookup_nil]
  cases other == name <;> rfl

lemma member_eq_none {members : List (String × Json)} {name : String} :
    member members name = none ↔ ¬ members.any (·.1 == name) := by
  rw [member, List.lookup_eq_none_iff, List.any_eq_true, not_exists]
  refine forall_congr' fun other => ?_
  rw [List.mem_reverse, not_and, bne_iff_ne, beq_iff_eq, ne_comm]

lemma lookup_lastMembers (members : List (String × Json)) (name : String) :
    (lastMembers members).lookup name = member members name := by
  induction members with
  | nil => rfl
  | cons first members ih =>
    obtain ⟨key, value⟩ := first
    rw [lastMembers, member_cons]
    by_cases hn : name = key
    · subst hn
      rw [if_pos (beq_self_eq_true name)]
      split_ifs with h
      · rw [ih]
        obtain ⟨last, hl⟩ := Option.ne_none_iff_exists'.mp (mt member_eq_none.mp (not_not.mpr h))
        rw [hl, Option.some_or]
      · rw [List.lookup_cons_self, member_eq_none.mpr h, Option.none_or]
    · have hbeq : (name == key) = false := by simpa using hn
      rw [hbeq, if_neg Bool.false_ne_true, Option.or_none]
      split_ifs
      · exact ih
      · rw [List.lookup_cons, hbeq]
        exact ih

lemma nodup_lastMembers (members : List (String × Json)) :
    ((lastMembers members).map Prod.fst).Nodup := by
  induction members with
  | nil => exact List.nodup_nil
  | cons first members ih =>
    obtain ⟨name, value⟩ := first
    rw [lastMembers]
    split_ifs with h
    · exact ih
    · refine List.nodup_cons.mpr ⟨fun hm => ?_, ih⟩
      have hnone : (lastMembers members).lookup name = none := by
        rw [lookup_lastMembers, member_eq_none.mpr h]
      obtain ⟨other, ho, he⟩ := List.mem_map.mp hm
      have hne := List.lookup_eq_none_iff.mp hnone other ho
      simp [he] at hne

lemma member_normalizeMembers (members : List (String × Json)) (name : String) :
    member (normalizeMembers members) name = (member members name).map normalize := by
  induction members with
  | nil => rfl
  | cons first members ih =>
    obtain ⟨key, value⟩ := first
    rw [normalizeMembers, member_cons, member_cons, ih]
    cases member members name with
    | some last => rfl
    | none =>
      rw [Option.map_none, Option.none_or, Option.none_or]
      split_ifs <;> rfl

lemma lastMembers_of_forall {members : List (String × Json)} {name : String} {value : Json}
    (h : ∀ first ∈ members, first.1 = name) (hv : member members name = some value) :
    lastMembers members = [(name, value)] := by
  induction members with
  | nil => cases hv
  | cons first members ih =>
    obtain ⟨key, head⟩ := first
    obtain rfl : key = name := h _ List.mem_cons_self
    have hrest : ∀ first ∈ members, first.1 = key := fun first hf =>
      h first (List.mem_cons_of_mem _ hf)
    rw [member_cons] at hv
    rw [lastMembers]
    split_ifs with hany
    · obtain ⟨last, hl⟩ := Option.ne_none_iff_exists'.mp (mt member_eq_none.mp (not_not.mpr hany))
      rw [hl, Option.some_or] at hv
      exact ih hrest (hl.trans hv)
    · rw [member_eq_none.mpr hany, Option.none_or, if_pos (beq_self_eq_true key)] at hv
      obtain rfl := Option.some.inj hv
      cases members with
      | nil => rfl
      | cons other members =>
        rw [List.any_cons, hrest other List.mem_cons_self] at hany
        simp at hany

lemma forall_of_lastMembers {members : List (String × Json)} {name : String} {value : Json}
    (h : lastMembers members = [(name, value)]) :
    (∀ first ∈ members, first.1 = name) ∧ member members name = some value := by
  have hlookup := lookup_lastMembers members
  rw [h] at hlookup
  refine ⟨fun first hf => ?_, ?_⟩
  · by_contra hne
    have hbeq : (first.1 == name) = false := by simpa using hne
    have hnone := hlookup first.1
    rw [List.lookup_cons, hbeq, List.lookup_nil] at hnone
    refine member_eq_none.mp hnone.symm ?_
    exact List.any_eq_true.mpr ⟨first, hf, beq_self_eq_true _⟩
  · rw [← hlookup name, List.lookup_cons_self]

lemma normalize_object (members : List (String × Json)) :
    normalize (.object members) = .object (lastMembers (normalizeMembers members)) := by
  rw [normalize]

lemma fields_normalize (names : List String) (members : List (String × Json)) :
    fields names false (normalize (.object members)) =
      some fun name => ((member members name).map normalize).elim .absent .present := by
  have hunique := countP_key_le_one (nodup_lastMembers (normalizeMembers members))
  rw [normalize_object, fields, if_neg (by simpa using fun name _ => hunique name)]
  simp [lookup_lastMembers, member_normalizeMembers]

variable {α : Type}

@[simp] lemma normalize_null : normalize .null = .null := by rw [normalize] <;> simp

@[simp] lemma normalize_string (value : String) : normalize (.string value) = .string value := by
  rw [normalize] <;> simp

lemma normalize_array (items : List Json) :
    normalize (.array items) = .array (items.map normalize) := by
  rw [normalize, normalizeItems_eq]

def IsScalar : Json → Prop
  | .array _ | .object _ => False
  | _ => True

lemma normalize_cases (json : Json) : (∃ items, json = .array items) ∨
    (∃ members, json = .object members) ∨ json.IsScalar ∧ json.normalize = json := by
  cases json with
  | array items => exact .inl ⟨items, rfl⟩
  | object members => exact .inr (.inl ⟨members, rfl⟩)
  | _ => exact .inr (.inr ⟨trivial, by rw [normalize] <;> simp⟩)

lemma IsScalar.fields_eq_none {json : Json} (h : json.IsScalar) (names : List String)
    (deny : Bool) : fields names deny json = none := by
  cases json with
  | array items => cases h
  | object members => cases h
  | _ => rfl

lemma IsScalar.asVec_eq_none {json : Json} (h : json.IsScalar) (read : Json → Option α) :
    asVec read json = none := by
  cases json with
  | array items => cases h
  | _ => rfl

lemma read_normalize {read : Json → Option α} (harray : ∀ items, read (.array items) = none)
    (hobject : ∀ members, read (.object members) = none) (json : Json) :
    read json.normalize = read json := by
  rcases normalize_cases json with ⟨items, rfl⟩ | ⟨members, rfl⟩ | ⟨-, h⟩
  · rw [normalize_array, harray, harray]
  · rw [normalize_object, hobject, hobject]
  · rw [h]

@[simp] lemma asU64_normalize (json : Json) : asU64 json.normalize = asU64 json :=
  read_normalize (fun _ => rfl) (fun _ => rfl) json

@[simp] lemma asBool_normalize (json : Json) : asBool json.normalize = asBool json :=
  read_normalize (fun _ => rfl) (fun _ => rfl) json

@[simp] lemma asString_normalize (json : Json) : asString json.normalize = asString json :=
  read_normalize (fun _ => rfl) (fun _ => rfl) json

lemma mapM_normalize {Spelled : α → Json → Prop} {read : Json → Option α}
    (h : ∀ a json, read json.normalize = some a ↔ Spelled a json) {values : List α}
    {items : List Json} :
    (items.map normalize).mapM read = some values ↔ List.Forall₂ Spelled values items := by
  induction items generalizing values with
  | nil => cases values <;> simp
  | cons item items ih =>
    rw [List.map_cons, List.mapM_cons]
    simp only [Option.bind_eq_bind, Option.bind_eq_some_iff, Option.pure_def, Option.some.injEq]
    constructor
    · rintro ⟨a, ha, as, has, rfl⟩
      exact .cons ((h a item).mp ha) (ih.mp has)
    · intro hs
      cases hs with
      | cons ha has => exact ⟨_, (h _ item).mpr ha, _, ih.mpr has, rfl⟩

lemma asVec_normalize {Spelled : α → Json → Prop} {read : Json → Option α}
    (h : ∀ a json, read json.normalize = some a ↔ Spelled a json) {values : List α} {json : Json} :
    asVec read json.normalize = some values ↔
      ∃ items, json = .array items ∧ List.Forall₂ Spelled values items := by
  rcases normalize_cases json with ⟨items, rfl⟩ | ⟨members, rfl⟩ | ⟨hscalar, hsame⟩
  · rw [normalize_array, asVec, mapM_normalize h]
    simp
  · rw [normalize_object]
    simp [asVec]
  · rw [hsame, hscalar.asVec_eq_none]
    refine iff_of_false (Option.some_ne_none _).symm ?_
    rintro ⟨items, rfl, -⟩
    exact hscalar

inductive Filled (names : List String) : Json → (String → Option Json) → Prop
  | object (members : List (String × Json)) : Filled names (.object members) (member members)
  | array {items : List Json} : items.length = names.length →
    Filled names (.array items) fun name => items[names.idxOf name]?

def Slot.of (value : Option Json) : Slot := (value.map normalize).elim .absent .present

lemma required_of {read : Json → Option α} {value : Option Json} {a : α} :
    (Slot.of value).required read = some a ↔
      ∃ json, value = some json ∧ read json.normalize = some a := by
  cases value <;> simp [Slot.of, Slot.required]

lemma optional_of {toJson : α → Json} {read : Json → Option α} {value : Option Json}
    {a : Option α} (hnull : ∀ a, toJson a ≠ .null)
    (hread : ∀ json a, read json.normalize = some a ↔ json = toJson a) :
    (Slot.of value).optional read = some a ↔ value.getD .null = a.elim .null toJson := by
  cases value with
  | none => cases a <;> simp [Slot.of, Slot.optional, (hnull _).symm]
  | some json =>
    change asOption read json.normalize = some a ↔ json = a.elim .null toJson
    by_cases hjson : json = .null
    · subst hjson
      rw [normalize_null]
      cases a <;> simp [asOption, (hnull _).symm]
    · have hnormal : json.normalize ≠ .null := by
        rcases normalize_cases json with ⟨items, rfl⟩ | ⟨members, rfl⟩ | ⟨-, hsame⟩
        · rw [normalize_array]
          exact Json.noConfusion
        · rw [normalize_object]
          exact Json.noConfusion
        · rwa [hsame]
      have hoption : asOption read json.normalize = (read json.normalize).map some := by
        unfold asOption
        split
        · next he => exact absurd he hnormal
        · rfl
      rw [hoption]
      cases a with
      | none => simp [hjson]
      | some a => simp [hread]

lemma fields_of_filled {names : List String} {json : Json} {value : String → Option Json}
    (h : Filled names json value) : ∃ slot, fields names false json.normalize = some slot ∧
      ∀ name ∈ names, slot name = Slot.of (value name) := by
  cases h with
  | object members => exact ⟨_, fields_normalize names members, fun _ _ => rfl⟩
  | @array items hl =>
    have hfields : fields names false (normalize (.array items)) =
        some fun name => ((items.map normalize)[names.idxOf name]?).elim .short .present := by
      rw [normalize_array, fields, if_neg (by rw [List.length_map, hl]; exact lt_irrefl _)]
    refine ⟨_, hfields, fun name hname => ?_⟩
    have hlt : names.idxOf name < items.length := hl ▸ List.idxOf_lt_length_of_mem hname
    simp [Slot.of, hlt]

lemma filled_of_fields {names : List String} (hn : names.Nodup) {json : Json}
    {slot : String → Slot} (h : fields names false json.normalize = some slot)
    (hfull : ∀ name ∈ names, slot name ≠ .short) : ∃ value, Filled names json value ∧
      ∀ name ∈ names, slot name = Slot.of (value name) := by
  have hsame : ∀ {value}, Filled names json value → ∀ name ∈ names,
      slot name = Slot.of (value name) := by
    intro value hfilled
    obtain ⟨other, hother, hvalue⟩ := fields_of_filled hfilled
    obtain rfl := Option.some.inj (h.symm.trans hother)
    exact hvalue
  rcases normalize_cases json with ⟨items, rfl⟩ | ⟨members, rfl⟩ | ⟨hscalar, hsame'⟩
  · rw [normalize_array, fields] at h
    split_ifs at h with hl
    rw [List.length_map, Nat.not_lt] at hl
    rcases hl.eq_or_lt with hl | hl
    · exact ⟨_, .array hl, hsame (.array hl)⟩
    · obtain rfl := Option.some.inj h
      refine absurd ?_ (hfull names[items.length] (List.getElem_mem hl))
      simp [List.Nodup.idxOf_getElem hn]
  · exact ⟨_, .object members, hsame (.object members)⟩
  · rw [hsame', hscalar.fields_eq_none] at h
    cases h

lemma Slot.required_ne_short {read : Json → Option α} {slot : Slot} {a : α}
    (h : slot.required read = some a) : slot ≠ .short := by
  rintro rfl
  cases h

lemma Slot.optional_ne_short {read : Json → Option α} {slot : Slot} {a : Option α}
    (h : slot.optional read = some a) : slot ≠ .short := by
  rintro rfl
  cases h

lemma fields_bind_iff {names : List String} (hn : names.Nodup) {take : (String → Slot) → Option α}
    (hfull : ∀ {slot a}, take slot = some a → ∀ name ∈ names, slot name ≠ .short)
    (hcongr : ∀ {slot other : String → Slot}, (∀ name ∈ names, slot name = other name) →
      take slot = take other) {json : Json} {a : α} :
    (fields names false json.normalize).bind take = some a ↔ ∃ value, Filled names json value ∧
      take (fun name => .of (value name)) = some a := by
  rw [Option.bind_eq_some_iff]
  constructor
  · rintro ⟨slot, hslot, htake⟩
    obtain ⟨value, hfilled, hvalue⟩ := filled_of_fields hn hslot (hfull htake)
    exact ⟨value, hfilled, (hcongr hvalue).symm.trans htake⟩
  · rintro ⟨value, hfilled, htake⟩
    obtain ⟨slot, hslot, hvalue⟩ := fields_of_filled hfilled
    exact ⟨slot, hslot, (hcongr hvalue).trans htake⟩

inductive Single (name : String) (content : Json) : Json → Prop
  | mk {members : List (String × Json)} : (∀ first ∈ members, first.1 = name) →
    member members name = some content → Single name content (.object members)

lemma names_normalizeMembers {members : List (String × Json)} {name : String} :
    (∀ first ∈ normalizeMembers members, first.1 = name) ↔ ∀ first ∈ members, first.1 = name := by
  have h : ∀ members : List (String × Json), (∀ first ∈ members, first.1 = name) ↔
      ∀ key ∈ members.map Prod.fst, key = name := fun members => by simp
  rw [h, map_fst_normalizeMembers, ← h]

lemma normalize_eq_single {json : Json} {name : String} {value : Json} :
    json.normalize = .object [(name, value)] ↔
      ∃ content, Single name content json ∧ value = content.normalize := by
  constructor
  · intro h
    rcases normalize_cases json with ⟨items, rfl⟩ | ⟨members, rfl⟩ | ⟨hscalar, hsame⟩
    · rw [normalize_array] at h
      cases h
    · rw [normalize_object] at h
      obtain ⟨hnames, hmember⟩ := forall_of_lastMembers (Json.object.inj h)
      rw [member_normalizeMembers, Option.map_eq_some_iff] at hmember
      obtain ⟨content, hcontent, rfl⟩ := hmember
      exact ⟨content, ⟨names_normalizeMembers.mp hnames, hcontent⟩, rfl⟩
    · rw [hsame] at h
      subst h
      cases hscalar
  · rintro ⟨content, ⟨hnames, hmember⟩, rfl⟩
    rw [normalize_object, lastMembers_of_forall (names_normalizeMembers.mpr hnames)]
    rw [member_normalizeMembers, hmember, Option.map_some]

lemma normalize_eq_scalar {json value : Json} (h : value.IsScalar) :
    json.normalize = value ↔ json = value := by
  have hsame : value.normalize = value := by
    rcases normalize_cases value with ⟨items, rfl⟩ | ⟨members, rfl⟩ | ⟨-, hsame⟩
    · cases h
    · cases h
    · exact hsame
  rcases normalize_cases json with ⟨items, rfl⟩ | ⟨members, rfl⟩ | ⟨-, hjson⟩
  · rw [normalize_array]
    refine iff_of_false ?_ ?_ <;> rintro rfl <;> cases h
  · rw [normalize_object]
    refine iff_of_false ?_ ?_ <;> rintro rfl <;> cases h
  · rw [hjson]

lemma asValueVariant_eq {names : List String} {json : Json} {name : String} :
    asValueVariant names json = some name ↔
      name ∈ names ∧ (json = .string name ∨ json = .object [(name, .null)]) := by
  unfold asValueVariant
  split
  · next other =>
    have hm : name ∈ names ∧ other = name ↔ other ∈ names ∧ other = name :=
      and_congr_left fun h => h ▸ Iff.rfl
    simp [hm]
  · next other =>
    have hm : name ∈ names ∧ other = name ↔ other ∈ names ∧ other = name :=
      and_congr_left fun h => h ▸ Iff.rfl
    simp [hm]
  · simp_all

lemma asValueVariant_normalize {names : List String} {json : Json} {name : String} :
    asValueVariant names json.normalize = some name ↔
      name ∈ names ∧ (json = .string name ∨ Single name .null json) := by
  have hnull : ∀ content : Json, .null = content.normalize ↔ content = .null := fun content =>
    eq_comm.trans (normalize_eq_scalar (show IsScalar .null from trivial))
  rw [asValueVariant_eq, normalize_eq_scalar (show IsScalar (.string name) from trivial),
    normalize_eq_single]
  simp [hnull]

end Melibea.Library.Json
