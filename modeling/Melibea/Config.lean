import Melibea.Attention
import Mathlib.Data.List.Basic

/-! Validated configuration and first-match rule resolution; a pattern is its matching function. -/

namespace Melibea

open Library

structure Regex where
  isMatch : String → Bool

structure WindowIdentity where
  appId : Option String
  title : Option String
  deriving DecidableEq

structure AttentionRule where
  appId : Option Regex
  title : Option Regex
  policy : AttentionPolicy
  hasPattern : appId.isSome || title.isSome

def matchesOptionalPattern (pattern : Option Regex) (value : Option String) : Bool :=
  pattern.all fun regex => value.any fun candidate => regex.isMatch candidate

def AttentionRule.matches (self : AttentionRule) (window : WindowIdentity) : Bool :=
  matchesOptionalPattern self.appId window.appId &&
    matchesOptionalPattern self.title window.title

structure Config where
  attention : List AttentionRule
  nonempty : attention ≠ []

def Config.kittyAndCode : Config where
  attention :=
    [{ appId := some ⟨(· == "kitty")⟩
       title := none
       policy :=
         { focused := .proportion .half
           unfocused := .proportion .tenth }
       hasPattern := rfl },
     { appId := some ⟨(· == "code")⟩
       title := none
       policy :=
         { focused := .proportion ⟨.ofUnits false (8106479329266893 * 2 ^ 1021), by decide +kernel⟩
           unfocused := .preserve }
       hasPattern := rfl }]
  nonempty := List.cons_ne_nil _ _

inductive RawWidth
  | text (value : String)
  | number (value : Binary64)
  deriving DecidableEq

structure RawAttentionRule where
  appId : Option String
  title : Option String
  focusedWidth : RawWidth
  unfocusedWidth : RawWidth
  deriving DecidableEq

lemma RawAttentionRule.hasPattern_of_not_missing (raw : RawAttentionRule)
    (h : ¬ (raw.appId.isNone && raw.title.isNone)) : raw.appId.isSome || raw.title.isSome := by
  rw [Bool.and_eq_true, Option.isNone_iff_eq_none, Option.isNone_iff_eq_none, not_and_or] at h
  rwa [Bool.or_eq_true, Option.isSome_iff_ne_none, Option.isSome_iff_ne_none]

structure RawConfig where
  attention : List RawAttentionRule
  deriving DecidableEq

inductive ConfigError
  | toml (error : String)
  | noAttentionRules
  | rule (number : ℕ) (message : String)
  deriving DecidableEq

def ConfigError.display : ConfigError → String
  | .toml error => s!"invalid TOML: {error}"
  | .noAttentionRules => "at least one `[[attention]]` rule is required"
  | .rule number message => s!"attention rule {number}: {message}"

def ruleError (index : ℕ) (message : String) : ConfigError := .rule (index + 1) message

def widthError (index : ℕ) (field : String) (error : WidthParseError) : ConfigError :=
  ruleError index s!"invalid `{field}`: {error.display}"

def parseWidth (index : ℕ) (field : String) : RawWidth → Except ConfigError WidthPolicy
  | .text value => (WidthPolicy.fromStr value).mapError (widthError index field)
  | .number value =>
    ((WidthPolicy.fromProportion value).mapError .invalidProportion).mapError
      (widthError index field)

section FromRaw

variable (compile : String → Except String Regex)

def compilePattern (index : ℕ) (field : String) :
    (pattern : Option String) →
      Except ConfigError { regex : Option Regex // regex.isSome = pattern.isSome }
  | none => .ok ⟨none, rfl⟩
  | some value =>
    match compile value with
    | .ok regex => .ok ⟨some regex, rfl⟩
    | .error error => .error (ruleError index s!"invalid `{field}` regex: {error}")

def AttentionRule.tryFromRaw (index : ℕ) (raw : RawAttentionRule) :
    Except ConfigError AttentionRule :=
  if missing : raw.appId.isNone && raw.title.isNone then
    .error (ruleError index "at least one of `app_id` or `title` is required")
  else do
    let appId ← compilePattern compile index "app_id" raw.appId
    let title ← compilePattern compile index "title" raw.title
    let focused ← parseWidth index "focused_width" raw.focusedWidth
    let unfocused ← parseWidth index "unfocused_width" raw.unfocusedWidth
    pure {
      appId := appId.val
      title := title.val
      policy := { focused, unfocused }
      hasPattern := by
        rw [appId.property, title.property]
        exact raw.hasPattern_of_not_missing missing }

def collectRules : ℕ → (raws : List RawAttentionRule) →
    Except ConfigError { rules : List AttentionRule // rules.length = raws.length }
  | _, [] => .ok ⟨[], rfl⟩
  | index, raw :: raws => do
    let rule ← AttentionRule.tryFromRaw compile index raw
    let rules ← collectRules (index + 1) raws
    pure ⟨rule :: rules.val, congrArg (· + 1) rules.property⟩

def Config.fromRaw (raw : RawConfig) : Except ConfigError Config :=
  if empty : raw.attention = [] then .error .noAttentionRules
  else do
    let attention ← collectRules compile 0 raw.attention
    pure {
      attention := attention.val
      nonempty := by
        rw [← List.length_pos_iff_ne_nil, attention.property]
        exact List.length_pos_iff_ne_nil.mpr empty }

def Config.parse (toml : String → Except String RawConfig) (input : String) :
    Except ConfigError Config := do
  let raw ← (toml input).mapError .toml
  fromRaw compile raw

end FromRaw

structure ResolvedRule where
  index : ℕ
  rule : AttentionRule

def Config.resolve (self : Config) (window : WindowIdentity) : Option ResolvedRule :=
  (self.attention.zipIdx.find? fun (rule, _) => rule.matches window).map
    fun (rule, index) => ⟨index, rule⟩

lemma Config.resolve_eq_some {self : Config} {window : WindowIdentity} {resolved : ResolvedRule} :
    self.resolve window = some resolved ↔
      self.attention[resolved.index]? = some resolved.rule ∧ resolved.rule.matches window ∧
        ∀ (j : ℕ) (rule : AttentionRule), j < resolved.index → self.attention[j]? = some rule →
          rule.matches window = false := by
  obtain ⟨index, rule⟩ := resolved
  simp only [Config.resolve, Option.map_eq_some_iff, Prod.exists, ResolvedRule.mk.injEq,
    List.find?_eq_some_iff_getElem, List.getElem_zipIdx, List.length_zipIdx]
  constructor
  · rintro ⟨_, _, ⟨hm, i, hi, he, hf⟩, rfl, rfl⟩
    simp only [Nat.zero_add, Prod.mk.injEq] at he
    obtain ⟨rfl, rfl⟩ := he
    refine ⟨List.getElem?_eq_getElem hi, hm, fun j r hj hr => ?_⟩
    obtain ⟨hl, rfl⟩ := List.getElem?_eq_some_iff.mp hr
    simpa using hf j hj
  · rintro ⟨hr, hm, hf⟩
    obtain ⟨hi, rfl⟩ := List.getElem?_eq_some_iff.mp hr
    refine ⟨_, _, ⟨hm, index, hi, by simp, fun j hj => ?_⟩, rfl, rfl⟩
    simpa using hf j _ hj (List.getElem?_eq_getElem (by omega))

lemma Config.resolve_eq_none {self : Config} {window : WindowIdentity} :
    self.resolve window = none ↔ ∀ rule ∈ self.attention, rule.matches window = false := by
  simp only [Config.resolve, Option.map_eq_none_iff, List.find?_eq_none, Prod.forall,
    List.mem_zipIdx_iff_getElem?, Bool.not_eq_true]
  constructor
  · intro h rule hr
    obtain ⟨i, hi⟩ := List.mem_iff_getElem?.mp hr
    exact h rule i hi
  · intro h rule i hi
    exact h rule (List.mem_of_getElem? hi)

end Melibea
