import Melibea.Controller
import Melibea.Framing
import Melibea.Library.Value

/-! niri's events as it writes them: an object with one member, named after the event. -/

namespace Melibea

open Library Json

/-- The text side of `serde_json` where a line is read into a value first. -/
structure SerdeValue extends SerdeJson where
  valueError : Bytes → String
  payloadError : Json → String

def SerdeValue.value (serde : SerdeValue) (line : Bytes) : Option Json :=
  (serde.parse line).bind asValue

def NiriWindow.ofJson (json : Json) : Option NiriWindow := do
  let slot ← fields ["id", "title", "app_id", "is_focused", "is_floating"] false json
  let id ← (slot "id").required asU64
  let title ← (slot "title").optional asString
  let appId ← (slot "app_id").optional asString
  let isFocused ← (slot "is_focused").required asBool
  let isFloating ← (slot "is_floating").required asBool
  return { id, title, appId, isFocused, isFloating }

-- `NiriMinimizedWindow` and its `into_window`.
def MinimizedWindow.ofJson (json : Json) : Option MinimizedWindow := do
  let slot ← fields ["id", "title", "app_id"] false json
  let id ← (slot "id").required asU64
  let title ← (slot "title").optional asString
  let appId ← (slot "app_id").optional asString
  return { id, appId, title }

def payload {α : Type} (name : String) (take : Slot → Option α) (json : Json) : Option α := do
  let slot ← fields [name] false json
  take (slot name)

def windowsChangedPayload : Json → Option (List NiriWindow) :=
  payload "windows" (Slot.required (asVec NiriWindow.ofJson))

def minimizedWindowsChangedPayload : Json → Option (List MinimizedWindow) :=
  payload "windows" (Slot.required (asVec MinimizedWindow.ofJson))

def windowChangedPayload : Json → Option NiriWindow :=
  payload "window" (Slot.required NiriWindow.ofJson)

def windowIdPayload : Json → Option WindowId := payload "id" (Slot.required asU64)

def optionalWindowIdPayload : Json → Option (Option WindowId) :=
  payload "id" (Slot.optional asU64)

inductive NiriEventError
  | json (error : String)
  | invalidEnvelope
  | payload (event : String) (source : String)
  deriving DecidableEq

def NiriEventError.display : NiriEventError → String
  | .json error => s!"invalid niri event JSON: {error}"
  | .invalidEnvelope => "niri event must contain exactly one event variant"
  | .payload event source => s!"invalid `{event}` payload: {source}"

def decodePayload {α : Type} (serde : SerdeValue) (read : Json → Option α) (name : String)
    (payload : Json) : Except NiriEventError α :=
  match read payload with
  | some a => .ok a
  | none => .error (.payload name (serde.payloadError payload))

def parseEventLine (serde : SerdeValue) (line : Bytes) : Except NiriEventError NiriEvent :=
  match serde.value line with
  | none => .error (.json (serde.valueError line))
  | some (.object [(name, payload)]) =>
    match name with
    | "WindowsChanged" =>
      (decodePayload serde windowsChangedPayload name payload).map .windowsChanged
    | "MinimizedWindowsChanged" =>
      (decodePayload serde minimizedWindowsChangedPayload name payload).map .minimizedWindowsChanged
    | "WindowOpenedOrChanged" =>
      (decodePayload serde windowChangedPayload name payload).map .windowOpenedOrChanged
    | "WindowClosed" => (decodePayload serde windowIdPayload name payload).map .windowClosed
    | "WindowFocusChanged" =>
      (decodePayload serde optionalWindowIdPayload name payload).map .windowFocusChanged
    | _ => .ok (.ignored name)
  | some _ => .error .invalidEnvelope

inductive SpelledWindow (window : NiriWindow) (json : Json) : Prop
  | mk {value : String → Option Json}
    (filled : Filled ["id", "title", "app_id", "is_focused", "is_floating"] json value)
    (id : value "id" = some (.unsigned window.id))
    (title : (value "title").getD .null = optionToJson .string window.title)
    (appId : (value "app_id").getD .null = optionToJson .string window.appId)
    (isFocused : value "is_focused" = some (.bool window.isFocused))
    (isFloating : value "is_floating" = some (.bool window.isFloating))

inductive SpelledMinimized (window : MinimizedWindow) (json : Json) : Prop
  | mk {value : String → Option Json} (filled : Filled ["id", "title", "app_id"] json value)
    (id : value "id" = some (.unsigned window.id))
    (title : (value "title").getD .null = optionToJson .string window.title)
    (appId : (value "app_id").getD .null = optionToJson .string window.appId)

inductive SpelledPayload : NiriEvent → Json → Prop
  | windowsChanged {windows : List NiriWindow} {items : List Json} {json : Json}
      {value : String → Option Json} : Filled ["windows"] json value →
    value "windows" = some (.array items) → List.Forall₂ SpelledWindow windows items →
      SpelledPayload (.windowsChanged windows) json
  | minimizedWindowsChanged {windows : List MinimizedWindow} {items : List Json} {json : Json}
      {value : String → Option Json} : Filled ["windows"] json value →
    value "windows" = some (.array items) → List.Forall₂ SpelledMinimized windows items →
      SpelledPayload (.minimizedWindowsChanged windows) json
  | windowOpenedOrChanged {window : NiriWindow} {item json : Json}
      {value : String → Option Json} : Filled ["window"] json value →
    value "window" = some item → SpelledWindow window item →
      SpelledPayload (.windowOpenedOrChanged window) json
  | windowClosed {id : WindowId} {json : Json} {value : String → Option Json} :
    Filled ["id"] json value → value "id" = some (.unsigned id) →
      SpelledPayload (.windowClosed id) json
  | windowFocusChanged {id : Option WindowId} {json : Json} {value : String → Option Json} :
    Filled ["id"] json value → (value "id").getD .null = optionToJson .unsigned id →
      SpelledPayload (.windowFocusChanged id) json

def eventNames : List String :=
  ["WindowsChanged", "MinimizedWindowsChanged", "WindowOpenedOrChanged", "WindowClosed",
    "WindowFocusChanged"]

inductive SpelledEvent : NiriEvent → Json → Prop
  | known {event : NiriEvent} {content json : Json} : Single (eventName event) content json →
    SpelledPayload event content → SpelledEvent event json
  | ignored {name : String} {content json : Json} : name ∉ eventNames → Single name content json →
    SpelledEvent (.ignored name) json

lemma asU64_normalize_eq {json : Json} {value : UInt64} :
    asU64 json.normalize = some value ↔ json = .unsigned value := by
  rw [asU64_normalize]
  cases json <;> simp [asU64]

lemma asBool_normalize_eq {json : Json} {value : Bool} :
    asBool json.normalize = some value ↔ json = .bool value := by
  rw [asBool_normalize]
  cases json <;> simp [asBool]

lemma asString_normalize_eq {json : Json} {value : String} :
    asString json.normalize = some value ↔ json = .string value := by
  rw [asString_normalize]
  cases json <;> simp [asString]

lemma optionToJson_eq {α : Type} (toJson : α → Json) (value : Option α) :
    optionToJson toJson value = value.elim .null toJson := by
  cases value <;> rfl

lemma optional_u64 {value : Option Json} {id : Option UInt64} :
    (Slot.of value).optional asU64 = some id ↔ value.getD .null = optionToJson .unsigned id := by
  rw [optionToJson_eq]
  exact optional_of (fun _ => Json.noConfusion) fun _ _ => asU64_normalize_eq

lemma optional_string {value : Option Json} {s : Option String} :
    (Slot.of value).optional asString = some s ↔ value.getD .null = optionToJson .string s := by
  rw [optionToJson_eq]
  exact optional_of (fun _ => Json.noConfusion) fun _ _ => asString_normalize_eq

lemma ofJson_window_iff (window : NiriWindow) (json : Json) :
    NiriWindow.ofJson json.normalize = some window ↔ SpelledWindow window json := by
  have hnames : ["id", "title", "app_id", "is_focused", "is_floating"].Nodup := by decide
  simp only [NiriWindow.ofJson, Option.bind_eq_bind]
  rw [fields_bind_iff hnames]
  · simp only [Option.bind_eq_some_iff, Option.pure_def, Option.some.injEq, required_of,
      asU64_normalize_eq, asBool_normalize_eq, optional_string]
    constructor
    · rintro ⟨value, filled, id, ⟨_, hid, rfl⟩, title, htitle, appId, happ, isFocused,
        ⟨_, hfocused, rfl⟩, isFloating, ⟨_, hfloating, rfl⟩, rfl⟩
      exact ⟨filled, hid, htitle, happ, hfocused, hfloating⟩
    · rintro ⟨filled, id, title, appId, isFocused, isFloating⟩
      exact ⟨_, filled, _, ⟨_, id, rfl⟩, _, title, _, appId, _, ⟨_, isFocused, rfl⟩, _,
        ⟨_, isFloating, rfl⟩, rfl⟩
  · intro slot window h
    simp only [Option.bind_eq_some_iff] at h
    obtain ⟨_, hid, _, htitle, _, happ, _, hfocused, _, hfloating, -⟩ := h
    simp [Slot.required_ne_short hid, Slot.optional_ne_short htitle, Slot.optional_ne_short happ,
      Slot.required_ne_short hfocused, Slot.required_ne_short hfloating]
  · intro slot other h
    simp [h]

lemma ofJson_minimized_iff (window : MinimizedWindow) (json : Json) :
    MinimizedWindow.ofJson json.normalize = some window ↔ SpelledMinimized window json := by
  have hnames : ["id", "title", "app_id"].Nodup := by decide
  simp only [MinimizedWindow.ofJson, Option.bind_eq_bind]
  rw [fields_bind_iff hnames]
  · simp only [Option.bind_eq_some_iff, Option.pure_def, Option.some.injEq, required_of,
      asU64_normalize_eq, optional_string]
    constructor
    · rintro ⟨value, filled, id, ⟨_, hid, rfl⟩, title, htitle, appId, happ, rfl⟩
      exact ⟨filled, hid, htitle, happ⟩
    · rintro ⟨filled, id, title, appId⟩
      exact ⟨_, filled, _, ⟨_, id, rfl⟩, _, title, _, appId, rfl⟩
  · intro slot window h
    simp only [Option.bind_eq_some_iff] at h
    obtain ⟨_, hid, _, htitle, _, happ, -⟩ := h
    simp [Slot.required_ne_short hid, Slot.optional_ne_short htitle, Slot.optional_ne_short happ]
  · intro slot other h
    simp [h]

lemma payload_iff {α : Type} {name : String} {take : Slot → Option α}
    (hfull : ∀ {slot a}, take slot = some a → slot ≠ .short) {json : Json} {a : α} :
    payload name take json.normalize = some a ↔
      ∃ value, Filled [name] json value ∧ take (.of (value name)) = some a := by
  rw [payload, Option.bind_eq_bind, fields_bind_iff (List.nodup_singleton name)]
  · intro slot a h other ho
    rw [List.mem_singleton.mp ho]
    exact hfull h
  · intro slot other h
    rw [h name (List.mem_singleton_self name)]

def readPayload : String → Json → Option NiriEvent
  | "WindowsChanged", json => (windowsChangedPayload json).map .windowsChanged
  | "MinimizedWindowsChanged", json =>
    (minimizedWindowsChangedPayload json).map .minimizedWindowsChanged
  | "WindowOpenedOrChanged", json => (windowChangedPayload json).map .windowOpenedOrChanged
  | "WindowClosed", json => (windowIdPayload json).map .windowClosed
  | "WindowFocusChanged", json => (optionalWindowIdPayload json).map .windowFocusChanged
  | name, _ => some (.ignored name)

lemma decodePayload_map {α : Type} {serde : SerdeValue} {read : Json → Option α} {name : String}
    {payload : Json} {f : α → NiriEvent} {event : NiriEvent} :
    (decodePayload serde read name payload).map f = .ok event ↔
      (read payload).map f = some event := by
  rw [decodePayload]
  cases read payload <;> simp [Except.map]

lemma parseEventLine_eq_ok {serde : SerdeValue} {line : Bytes} {event : NiriEvent} :
    parseEventLine serde line = .ok event ↔ ∃ name payload,
      serde.value line = some (.object [(name, payload)]) ∧
        readPayload name payload = some event := by
  unfold parseEventLine
  split
  · next h => simp [h]
  · next name payload h =>
    have hname : (∃ name' payload', serde.value line = some (.object [(name', payload')]) ∧
        readPayload name' payload' = some event) ↔ readPayload name payload = some event := by
      simp [h]
    rw [hname]
    split
    · exact decodePayload_map
    · exact decodePayload_map
    · exact decodePayload_map
    · exact decodePayload_map
    · exact decodePayload_map
    · next h1 h2 h3 h4 h5 =>
      rw [readPayload] <;> simp_all
  · next json hsingle hvalue =>
    refine iff_of_false (fun he => (nomatch he)) ?_
    rintro ⟨name, payload, h, -⟩
    exact hsingle name payload (Option.some.inj (hvalue.symm.trans h))

lemma windowsChangedPayload_iff {windows : List NiriWindow} {json : Json} :
    windowsChangedPayload json.normalize = some windows ↔
      SpelledPayload (.windowsChanged windows) json := by
  rw [windowsChangedPayload, payload_iff Slot.required_ne_short]
  simp only [required_of, asVec_normalize ofJson_window_iff]
  constructor
  · rintro ⟨value, filled, _, hvalue, items, rfl, hitems⟩
    exact .windowsChanged filled hvalue hitems
  · rintro (⟨filled, hvalue, hitems⟩)
    exact ⟨_, filled, _, hvalue, _, rfl, hitems⟩

lemma minimizedWindowsChangedPayload_iff {windows : List MinimizedWindow} {json : Json} :
    minimizedWindowsChangedPayload json.normalize = some windows ↔
      SpelledPayload (.minimizedWindowsChanged windows) json := by
  rw [minimizedWindowsChangedPayload, payload_iff Slot.required_ne_short]
  simp only [required_of, asVec_normalize ofJson_minimized_iff]
  constructor
  · rintro ⟨value, filled, _, hvalue, items, rfl, hitems⟩
    exact .minimizedWindowsChanged filled hvalue hitems
  · rintro (_ | ⟨filled, hvalue, hitems⟩)
    exact ⟨_, filled, _, hvalue, _, rfl, hitems⟩

lemma windowChangedPayload_iff {window : NiriWindow} {json : Json} :
    windowChangedPayload json.normalize = some window ↔
      SpelledPayload (.windowOpenedOrChanged window) json := by
  rw [windowChangedPayload, payload_iff Slot.required_ne_short]
  simp only [required_of, ofJson_window_iff]
  constructor
  · rintro ⟨value, filled, _, hvalue, hwindow⟩
    exact .windowOpenedOrChanged filled hvalue hwindow
  · rintro (_ | _ | ⟨filled, hvalue, hwindow⟩)
    exact ⟨_, filled, _, hvalue, hwindow⟩

lemma windowIdPayload_iff {id : WindowId} {json : Json} :
    windowIdPayload json.normalize = some id ↔ SpelledPayload (.windowClosed id) json := by
  rw [windowIdPayload, payload_iff Slot.required_ne_short]
  simp only [required_of, asU64_normalize_eq]
  constructor
  · rintro ⟨value, filled, _, hvalue, rfl⟩
    exact .windowClosed filled hvalue
  · rintro (_ | _ | _ | ⟨filled, hvalue⟩)
    exact ⟨_, filled, _, hvalue, rfl⟩

lemma optionalWindowIdPayload_iff {id : Option WindowId} {json : Json} :
    optionalWindowIdPayload json.normalize = some id ↔
      SpelledPayload (.windowFocusChanged id) json := by
  rw [optionalWindowIdPayload, payload_iff Slot.optional_ne_short]
  simp only [optional_u64]
  constructor
  · rintro ⟨value, filled, hvalue⟩
    exact .windowFocusChanged filled hvalue
  · rintro (_ | _ | _ | _ | ⟨filled, hvalue⟩)
    exact ⟨_, filled, hvalue⟩

lemma readPayload_known {α : Type} {read : Json → Option α} {f : α → NiriEvent} {name : String}
    {content : Json} {event : NiriEvent} (hn : name ∈ eventNames)
    (hread : ∀ {a}, read content.normalize = some a ↔ SpelledPayload (f a) content)
    (hf : ∀ a, eventName (f a) = name)
    (hname : name = eventName event → SpelledPayload event content → ∃ a, f a = event) :
    (read content.normalize).map f = some event ↔ name ∉ eventNames ∧ event = .ignored name ∨
      name = eventName event ∧ SpelledPayload event content := by
  rw [Option.map_eq_some_iff]
  constructor
  · rintro ⟨a, ha, rfl⟩
    exact .inr ⟨(hf a).symm, hread.mp ha⟩
  · rintro (⟨habsent, -⟩ | ⟨he, hspelled⟩)
    · exact absurd hn habsent
    · obtain ⟨a, rfl⟩ := hname he hspelled
      exact ⟨a, hread.mpr hspelled, rfl⟩

lemma readPayload_iff {name : String} {content : Json} {event : NiriEvent} :
    readPayload name content.normalize = some event ↔
      name ∉ eventNames ∧ event = .ignored name ∨
        name = eventName event ∧ SpelledPayload event content := by
  unfold readPayload
  split
  · refine readPayload_known (by decide) windowsChangedPayload_iff (fun _ => rfl) ?_
    rintro hname (_ | _ | _ | _ | _) <;> simp [eventName] at hname ⊢
  · refine readPayload_known (by decide) minimizedWindowsChangedPayload_iff (fun _ => rfl) ?_
    rintro hname (_ | _ | _ | _ | _) <;> simp [eventName] at hname ⊢
  · refine readPayload_known (by decide) windowChangedPayload_iff (fun _ => rfl) ?_
    rintro hname (_ | _ | _ | _ | _) <;> simp [eventName] at hname ⊢
  · refine readPayload_known (by decide) windowIdPayload_iff (fun _ => rfl) ?_
    rintro hname (_ | _ | _ | _ | _) <;> simp [eventName] at hname ⊢
  · refine readPayload_known (by decide) optionalWindowIdPayload_iff (fun _ => rfl) ?_
    rintro hname (_ | _ | _ | _ | _) <;> simp [eventName] at hname ⊢
  · next name _ _ h1 h2 h3 h4 h5 =>
    have hunknown : name ∉ eventNames := by
      simp only [eventNames, List.mem_cons, List.not_mem_nil, or_false, not_or]
      exact ⟨h1, h2, h3, h4, h5⟩
    rw [Option.some.injEq]
    constructor
    · rintro rfl
      exact .inl ⟨hunknown, rfl⟩
    · rintro (⟨-, rfl⟩ | ⟨rfl, hspelled⟩)
      · rfl
      · refine absurd ?_ hunknown
        cases hspelled <;> simp [eventName, eventNames]

lemma value_single {serde : SerdeValue} {line : Bytes} {name : String} {value : Json} :
    serde.value line = some (.object [(name, value)]) ↔ ∃ json content,
      serde.parse line = some json ∧ json.isReadable ∧ Single name content json ∧
        value = content.normalize := by
  rw [SerdeValue.value, Option.bind_eq_some_iff]
  simp only [asValue, Option.ite_none_right_eq_some, Option.some.injEq, normalize_eq_single]
  constructor
  · rintro ⟨json, hparse, hreadable, content, hcontent⟩
    exact ⟨json, content, hparse, hreadable, hcontent⟩
  · rintro ⟨json, content, hparse, hreadable, hcontent⟩
    exact ⟨json, hparse, hreadable, content, hcontent⟩

lemma parseEventLine_spelled {serde : SerdeValue} {line : Bytes} {json : Json} {event : NiriEvent}
    (hp : serde.parse line = some json) (hr : json.isReadable) (h : SpelledEvent event json) :
    parseEventLine serde line = .ok event := by
  rw [parseEventLine_eq_ok]
  cases h with
  | known hsingle hspelled =>
    exact ⟨_, _, value_single.mpr ⟨_, _, hp, hr, hsingle, rfl⟩,
      readPayload_iff.mpr (.inr ⟨rfl, hspelled⟩)⟩
  | ignored hname hsingle =>
    exact ⟨_, _, value_single.mpr ⟨_, _, hp, hr, hsingle, rfl⟩,
      readPayload_iff.mpr (.inl ⟨hname, rfl⟩)⟩

/-- A line is read as an event exactly where it spells that event. -/
theorem event_line_iff (serde : SerdeValue) (line : Bytes) (event : NiriEvent) :
    parseEventLine serde line = .ok event ↔
      ∃ json, serde.parse line = some json ∧ json.isReadable ∧ SpelledEvent event json := by
  constructor
  · rw [parseEventLine_eq_ok]
    rintro ⟨name, payload, hvalue, hread⟩
    obtain ⟨json, content, hparse, hreadable, hsingle, rfl⟩ := value_single.mp hvalue
    refine ⟨json, hparse, hreadable, ?_⟩
    rcases readPayload_iff.mp hread with ⟨hname, rfl⟩ | ⟨rfl, hspelled⟩
    · exact .ignored hname hsingle
    · exact .known hsingle hspelled
  · rintro ⟨json, hparse, hreadable, hspelled⟩
    exact parseEventLine_spelled hparse hreadable hspelled

end Melibea
