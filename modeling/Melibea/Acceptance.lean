import Melibea.Config
import Melibea.Library.Validation

/-! Which configurations are accepted, and the error of the first check that fails. -/

namespace Melibea

open Library

inductive RawWidth.Denotes : RawWidth → WidthPolicy → Prop
  | preserve {text : String} : Decimal.trim text.toList = "preserve".toList →
      Denotes (.text text) .preserve
  | percent {text : String} {percent : List Char} {number : Binary64} {width : Proportion} :
      Decimal.trim text.toList = percent ++ ['%'] → Decimal.parse percent = some number →
        number.div .hundred = width.value → Denotes (.text text) (.proportion width)
  | decimal {text : String} {width : Proportion} :
      (∀ percent, Decimal.trim text.toList ≠ percent ++ ['%']) →
        Decimal.parse (Decimal.trim text.toList) = some width.value →
          Denotes (.text text) (.proportion width)
  | number (width : Proportion) : Denotes (.number width.value) (.proportion width)

lemma stripSuffix_eq_some {text rest : List Char} {c : Char} :
    Decimal.stripSuffix text c = some rest ↔ text = rest ++ [c] := by
  rw [Decimal.stripSuffix]
  split_ifs with h
  · obtain ⟨init, rfl⟩ := List.getLast?_eq_some_iff.mp h
    simp
  · simp only [false_iff]
    rintro rfl
    simp at h

section Widths

variable {index : ℕ} {field : String}

lemma fromProportion_checks (value : Binary64) :
    Checks (WidthPolicy.fromProportion value)
      (fun policy => ∃ width : Proportion, value = width.value ∧ policy = .proportion width)
      (fun _ => True) := by
  rw [WidthPolicy.fromProportion]
  split_ifs with h
  · refine (Checks.ok _ _).congr fun policy => ⟨?_, ?_⟩
    · rintro rfl
      exact ⟨_, rfl, rfl⟩
    · rintro ⟨width, rfl, rfl⟩
      rfl
  · refine (Checks.error trivial).congr fun policy => ⟨False.elim, ?_⟩
    rintro ⟨width, rfl, _⟩
    exact h width.valid

lemma proportion_checks (value : Binary64) :
    Checks ((WidthPolicy.fromProportion value).mapError WidthParseError.invalidProportion)
      (fun policy => ∃ width : Proportion, value = width.value ∧ policy = .proportion width)
      (fun _ => True) :=
  (fromProportion_checks value).mapError fun _ _ => trivial

lemma parseNumber_checks (value : List Char) (original : String) :
    Checks (parseNumber value original) (fun number => Decimal.parse value = some number)
      (fun _ => True) := by
  rw [parseNumber]
  cases Decimal.parse value with
  | none => exact (Checks.error trivial).congr fun number => by simp
  | some number => exact (Checks.ok _ _).congr fun other => by simp

lemma fromStr_checks (text : String) :
    Checks (WidthPolicy.fromStr text) (RawWidth.text text).Denotes (fun _ => True) := by
  rw [WidthPolicy.fromStr]
  by_cases hp : Decimal.trim text.toList = "preserve".toList
  · rw [if_pos hp]
    refine (Checks.ok _ _).congr fun policy => ⟨?_, fun hd => ?_⟩
    · rintro rfl
      exact .preserve hp
    · cases hd with
      | preserve _ => rfl
      | @percent _ percent _ _ hs _ _ =>
        have hlast := congrArg List.getLast? (hp.symm.trans hs)
        rw [List.getLast?_append] at hlast
        simp at hlast
      | decimal _ hd =>
        rw [hp] at hd
        have hnone : Decimal.parse "preserve".toList = none := by decide +kernel
        rw [hnone] at hd
        cases hd
  rw [if_neg hp]
  cases hs : Decimal.stripSuffix (Decimal.trim text.toList) '%' with
  | some percent =>
    have htext := stripSuffix_eq_some.mp hs
    refine (((parseNumber_checks percent text).map _).bind fun number _ =>
      proportion_checks number).congr fun policy => ⟨?_, fun hd => ?_⟩
    · rintro ⟨_, ⟨number, hparse, rfl⟩, width, hw, rfl⟩
      exact .percent htext hparse hw
    · cases hd with
      | preserve h => exact absurd h hp
      | decimal h _ => exact absurd htext (h percent)
      | @percent _ percent' number width ht hparse hw =>
        obtain rfl : percent = percent' := (List.append_inj' (htext.symm.trans ht) rfl).1
        exact ⟨_, ⟨number, hparse, rfl⟩, width, hw, rfl⟩
  | none =>
    have htext : ∀ percent, Decimal.trim text.toList ≠ percent ++ ['%'] := by
      intro percent ht
      rw [stripSuffix_eq_some.mpr ht] at hs
      cases hs
    refine ((parseNumber_checks _ text).bind fun number _ => proportion_checks number).congr
      fun policy => ⟨?_, fun hd => ?_⟩
    · rintro ⟨_, hparse, width, rfl, rfl⟩
      exact .decimal htext hparse
    · cases hd with
      | preserve h => exact absurd h hp
      | percent ht _ _ => exact absurd ht (htext _)
      | @decimal _ width _ hparse => exact ⟨_, hparse, width, rfl, rfl⟩

def ConfigError.Blames (index : ℕ) (error : ConfigError) : Prop :=
  ∃ message, error = .rule (index + 1) message

lemma parseWidth_checks (index : ℕ) (field : String) (value : RawWidth) :
    Checks (parseWidth index field value) value.Denotes (ConfigError.Blames index) := by
  cases value with
  | text text => exact (fromStr_checks text).mapError fun _ _ => ⟨_, rfl⟩
  | number value =>
    refine ((proportion_checks value).mapError fun _ _ => ⟨_, rfl⟩).congr
      fun policy => ⟨?_, fun hd => ?_⟩
    · rintro ⟨width, rfl, rfl⟩
      exact .number width
    · cases hd with
      | number width => exact ⟨width, rfl, rfl⟩

end Widths

variable (compile : String → Except String Regex)

namespace RawAttentionRule

structure Means (raw : RawAttentionRule) (rule : AttentionRule) : Prop where
  appId : raw.appId.map compile = rule.appId.map .ok
  title : raw.title.map compile = rule.title.map .ok
  focused : raw.focusedWidth.Denotes rule.policy.focused
  unfocused : raw.unfocusedWidth.Denotes rule.policy.unfocused

structure Valid (raw : RawAttentionRule) : Prop where
  pattern : raw.appId.isSome ∨ raw.title.isSome
  compiles (source : String) : raw.appId = some source ∨ raw.title = some source →
    ∃ regex, compile source = .ok regex
  focused : ∃ policy, raw.focusedWidth.Denotes policy
  unfocused : ∃ policy, raw.unfocusedWidth.Denotes policy

end RawAttentionRule

def PatternMatched (pattern value : Option String) : Prop :=
  ∀ source ∈ pattern, ∃ regex candidate, compile source = .ok regex ∧ value = some candidate ∧
    regex.isMatch candidate

def RawAttentionRule.Matched (raw : RawAttentionRule) (window : WindowIdentity) : Prop :=
  PatternMatched compile raw.appId window.appId ∧ PatternMatched compile raw.title window.title

variable {compile}

lemma matched_iff {pattern : Option String} {regex : Option Regex}
    (h : pattern.map compile = regex.map .ok) (value : Option String) :
    matchesOptionalPattern regex value ↔ PatternMatched compile pattern value := by
  cases pattern with
  | none =>
    cases regex with
    | none => simp [matchesOptionalPattern, PatternMatched]
    | some regex => cases h
  | some source =>
    cases regex with
    | none => cases h
    | some regex =>
      have hc : compile source = .ok regex := Option.some.inj h
      cases value <;> simp [matchesOptionalPattern, PatternMatched, hc]

lemma exists_compiled {pattern : Option String}
    (h : ∀ source, pattern = some source → ∃ regex, compile source = .ok regex) :
    ∃ regex : Option Regex, pattern.map compile = regex.map .ok := by
  cases pattern with
  | none => exact ⟨none, rfl⟩
  | some source =>
    obtain ⟨regex, hr⟩ := h source rfl
    exact ⟨some regex, congrArg some hr⟩

namespace RawAttentionRule

variable {raw : RawAttentionRule} {rule : AttentionRule}

lemma isSome_of_compiled {pattern : Option String} {regex : Option Regex}
    (h : pattern.map compile = regex.map .ok) : regex.isSome = pattern.isSome := by
  have hs := congrArg Option.isSome h
  rw [Option.isSome_map, Option.isSome_map] at hs
  exact hs.symm

lemma Means.matches_iff (h : raw.Means compile rule) (window : WindowIdentity) :
    rule.matches window ↔ raw.Matched compile window := by
  rw [AttentionRule.matches, Bool.and_eq_true, matched_iff h.appId, matched_iff h.title]
  rfl

lemma Means.valid (h : raw.Means compile rule) : raw.Valid compile where
  pattern := by
    rw [← isSome_of_compiled h.appId, ← isSome_of_compiled h.title, ← Bool.or_eq_true]
    exact rule.hasPattern
  compiles source hs := by
    have hmap : some (compile source) = rule.appId.map .ok ∨
        some (compile source) = rule.title.map .ok := by
      rcases hs with hs | hs
      · exact .inl (by rw [← h.appId, hs, Option.map_some])
      · exact .inr (by rw [← h.title, hs, Option.map_some])
    rcases hmap with hmap | hmap
    · obtain ⟨regex, _, hr⟩ := Option.map_eq_some_iff.mp hmap.symm
      exact ⟨regex, hr.symm⟩
    · obtain ⟨regex, _, hr⟩ := Option.map_eq_some_iff.mp hmap.symm
      exact ⟨regex, hr.symm⟩
  focused := ⟨_, h.focused⟩
  unfocused := ⟨_, h.unfocused⟩

lemma valid_iff : raw.Valid compile ↔ ∃ rule, raw.Means compile rule := by
  constructor
  · intro h
    obtain ⟨appId, ha⟩ := exists_compiled fun source hs => h.compiles source (.inl hs)
    obtain ⟨title, ht⟩ := exists_compiled fun source hs => h.compiles source (.inr hs)
    obtain ⟨focused, hf⟩ := h.focused
    obtain ⟨unfocused, hu⟩ := h.unfocused
    refine ⟨⟨appId, title, ⟨focused, unfocused⟩, ?_⟩, ha, ht, hf, hu⟩
    rw [isSome_of_compiled ha, isSome_of_compiled ht, Bool.or_eq_true]
    exact h.pattern
  · rintro ⟨rule, h⟩
    exact h.valid

lemma compilePattern_checks (index : ℕ) (field : String) (pattern : Option String) :
    Checks (compilePattern compile index field pattern)
      (fun regex => pattern.map compile = regex.val.map .ok) (ConfigError.Blames index) := by
  cases pattern with
  | none =>
    refine (Checks.ok _ _).congr fun regex => ?_
    rw [Subtype.ext_iff, Option.map_none, eq_comm, eq_comm (a := none), Option.map_eq_none_iff]
  | some source =>
    cases hc : compile source with
    | error error =>
      simp only [compilePattern, hc]
      refine (Checks.error ⟨_, rfl⟩).congr fun regex => ⟨False.elim, fun hr => ?_⟩
      rw [Option.map_some, hc] at hr
      obtain ⟨_, _, he⟩ := Option.map_eq_some_iff.mp hr.symm
      cases he
    | ok compiled =>
      simp only [compilePattern, hc]
      refine (Checks.ok _ _).congr fun regex => ?_
      rw [Subtype.ext_iff, Option.map_some, hc, eq_comm (a := some (Except.ok compiled)),
        Option.map_eq_some_iff]
      simp [eq_comm]

lemma tryFromRaw_checks (index : ℕ) (raw : RawAttentionRule) :
    Checks (AttentionRule.tryFromRaw compile index raw) (raw.Means compile)
      (ConfigError.Blames index) := by
  rw [AttentionRule.tryFromRaw]
  split_ifs with missing
  · refine (Checks.error ⟨_, rfl⟩).congr fun rule => ⟨False.elim, fun h => ?_⟩
    have hp := h.valid.pattern
    rw [Bool.and_eq_true, Option.isNone_iff_eq_none, Option.isNone_iff_eq_none] at missing
    simp [missing] at hp
  · refine ((compilePattern_checks index "app_id" raw.appId).bind fun appId ha =>
      (compilePattern_checks index "title" raw.title).bind fun title ht =>
      (parseWidth_checks index "focused_width" raw.focusedWidth).bind fun focused hf =>
      (parseWidth_checks index "unfocused_width" raw.unfocusedWidth).bind fun unfocused hu =>
        Checks.ok _ _).congr fun rule => ⟨?_, fun h => ?_⟩
    · rintro ⟨appId, ha, title, ht, focused, hf, unfocused, hu, rfl⟩
      exact ⟨ha, ht, hf, hu⟩
    · exact ⟨⟨rule.appId, isSome_of_compiled h.appId⟩, h.appId,
        ⟨rule.title, isSome_of_compiled h.title⟩, h.title, _, h.focused, _, h.unfocused, rfl⟩

end RawAttentionRule

open RawAttentionRule

variable (compile) in
def FirstFault (start : ℕ) (raws : List RawAttentionRule) (error : ConfigError) : Prop :=
  ∃ earlier rule later, raws = earlier ++ rule :: later ∧ (∀ r ∈ earlier, r.Valid compile) ∧
    ¬ rule.Valid compile ∧ error.Blames (start + earlier.length)

lemma collectRules_checks (start : ℕ) (raws : List RawAttentionRule) :
    Checks (collectRules compile start raws)
      (fun rules => List.Forall₂ (Means compile) raws rules.val)
      (FirstFault compile start raws) := by
  induction raws generalizing start with
  | nil =>
    refine (Checks.ok _ _).congr fun rules => ?_
    rw [List.forall₂_nil_left_iff, Subtype.ext_iff, eq_comm]
  | cons raw raws ih =>
    have hfirst : Checks (AttentionRule.tryFromRaw compile start raw) (raw.Means compile)
        (FirstFault compile start (raw :: raws)) :=
      (tryFromRaw_checks start raw).blame fun error hn hb =>
        ⟨[], raw, raws, rfl, by simp, by rwa [valid_iff], hb⟩
    refine (hfirst.bind fun rule hrule => ((ih (start + 1)).blame fun error _ hb => ?_).bind
      fun rules _ => Checks.ok _ _).congr fun rules => ⟨?_, fun h => ?_⟩
    · obtain ⟨earlier, faulty, later, rfl, hvalid, hfault, hblames⟩ := hb
      refine ⟨raw :: earlier, faulty, later, rfl, ?_, hfault, ?_⟩
      · exact List.forall_mem_cons.mpr ⟨hrule.valid, hvalid⟩
      · rwa [List.length_cons, Nat.add_comm earlier.length, ← Nat.add_assoc]
    · rintro ⟨rule, hrule, rules, hrules, rfl⟩
      exact .cons hrule hrules
    · obtain ⟨rules, hlen⟩ := rules
      cases h with
      | cons hrule hrules => exact ⟨_, hrule, ⟨_, hrules.length_eq.symm⟩, hrules, rfl⟩

lemma fromRaw_checks {raw : RawConfig} (hne : raw.attention ≠ []) :
    Checks (Config.fromRaw compile raw)
      (fun config => List.Forall₂ (Means compile) raw.attention config.attention)
      (FirstFault compile 0 raw.attention) := by
  rw [Config.fromRaw, dif_neg hne]
  refine ((collectRules_checks 0 raw.attention).bind fun rules _ => Checks.ok _ _).congr
    fun config => ⟨?_, fun h => ?_⟩
  · rintro ⟨rules, hrules, rfl⟩
    exact hrules
  · exact ⟨⟨config.attention, h.length_eq.symm⟩, h, rfl⟩

lemma exists_config_iff {raw : RawConfig} : (∃ config, Config.fromRaw compile raw = .ok config) ↔
    raw.attention ≠ [] ∧ ∀ rule ∈ raw.attention, rule.Valid compile := by
  by_cases hne : raw.attention = []
  · rw [Config.fromRaw, dif_pos hne]
    simp [hne]
  · rw [(fromRaw_checks hne).accepts_iff, and_iff_right hne]
    constructor
    · rintro ⟨config, h⟩ rule hr
      obtain ⟨i, hi⟩ := List.mem_iff_getElem?.mp hr
      obtain ⟨rule', _, hm⟩ := exists_right_of_getElem h hi
      exact hm.valid
    · intro h
      obtain ⟨rules, hrules⟩ := exists_corresponding fun rule hr => valid_iff.mp (h rule hr)
      refine ⟨⟨rules, fun he => hne ?_⟩, hrules⟩
      rw [he] at hrules
      exact List.forall₂_nil_right_iff.mp hrules

end Melibea
