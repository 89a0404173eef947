import Melibea.Invocation
import Melibea.Session

/-! The command that lists the minimized windows, from what niri has said to what is printed. -/

namespace Melibea

open Library NiriEventStream

section List

variable (debug : Option String → String) (debugMessage : Message → String)

def bubbleLine (index : ℕ) (window : Window) : String :=
  s!"bubble={index} window={window.id} app_id={debug window.appId} " ++
    s!"title={debug window.title} icon_name={debug window.iconName}"

def listLines (version : UInt32) (revision : UInt64) (windows : List Window) : List String :=
  s!"protocol={version} minimized revision={revision} count={windows.length}" ::
    windows.zipIdx.map fun (window, index) => bubbleLine debug index window

def serviceList (response : Except String ServerMessage) : Finished :=
  match response with
  | .ok ⟨version, .snapshot revision windows⟩ =>
    { stdout := listLines debug version revision windows, stderr := [], code := 0 }
  | .ok message => protocolFailure debugMessage message
  | .error error => { stdout := [], stderr := [error], code := 1 }

end List

lemma serve_list {serde : SerdeJson} (hrequest : RequestText serde ⟨protocolVersion, .list⟩)
    (broker : Broker) (io : Io) (ending : StreamEnd) :
    (broker.serve serde (io, .connection
      ⟨serde.print (ClientRequest.toJson ⟨protocolVersion, .list⟩) ++ [newline], ending⟩)).1 =
        [⟨broker.accepted, protocolVersion, broker.state.reply io .list⟩] := by
  simp only [Broker.serve, hrequest.forwarded [] ending, Broker.turn_client,
    BrokerState.handleClient_eq]

open Session in
/-- `list` succeeds exactly when niri has said on this connection which windows are minimized, and
then prints those that it named last. -/
theorem list_shows_niri (debug : Option String → String) (debugMessage : Message → String)
    (serde : SerdeValue) (parse : String → Except String Config) (loaded : LoadedConfig parse)
    (inputs : List SessionInput) (config : Config) (connection : Connection)
    (h : (Session.after serde loaded inputs).process = .connected config connection)
    (env : Environment) (path : String) (hpath : socketPath env = .ok path)
    (hrequest : RequestText serde.toSerdeJson ⟨protocolVersion, .list⟩) (io : Io)
    (ending : StreamEnd) :
    ∃ stream since service watcher,
      Reading serde loaded inputs config connection stream since service watcher ∧
      let seen := Connection.history parse config service watcher since
      let asked := serde.print (ClientRequest.toJson ⟨protocolVersion, .list⟩) ++ [newline]
      let written := (connection.controller.service.broker.serve serde.toSerdeJson
        (io, .connection ⟨asked, ending⟩)).1
      let answer := written.flatMap fun write => messageBytes serde.toSerdeJson write.message
      seen <+: messages serde stream ∧
      ((∀ write ∈ written, Subscription.MessageLine serde.toSerdeJson write.message) →
        let response := serviceRequest serde.toSerdeJson env .reliable .list ⟨answer, .closed⟩
        let finished := serviceList debug debugMessage response.1
        response.2 = asked ∧ (finished.code = 0 ↔ (lastPublished seen).isSome) ∧
          ∀ windows, lastPublished seen = some windows → ∃ revision,
            finished.stdout = listLines debug protocolVersion revision
              (windows.map Window.ofMinimized)) := by
  obtain ⟨stream, since, service, watcher, hreading⟩ := reading_after loaded h
  refine ⟨stream, since, service, watcher, hreading, ?_⟩
  intro seen asked written answer
  have hseen : seen <+: messages serde stream := by
    refine List.IsPrefix.trans ?_ hreading.reads.beginning
    exact ⟨_, Connection.history_append_channel hreading.made.running since⟩
  refine ⟨hseen, fun hlines => ?_⟩
  intro response finished
  have hserved := hreading.made.served
  set broker := connection.controller.service.broker
  have hwritten : written = [⟨broker.accepted, protocolVersion, broker.state.reply io .list⟩] :=
    serve_list hrequest broker io ending
  have hline : Subscription.MessageLine serde.toSerdeJson
      ⟨protocolVersion, broker.state.reply io .list⟩ :=
    hlines ⟨broker.accepted, protocolVersion, broker.state.reply io .list⟩
      (by rw [hwritten]; exact List.mem_singleton_self _)
  have hanswer : answer =
      messageBytes serde.toSerdeJson ⟨protocolVersion, broker.state.reply io .list⟩ ++ [] := by
    simp only [answer, hwritten, List.flatMap_singleton, List.append_nil]
  have hresponse : response = (.ok ⟨protocolVersion, broker.state.reply io .list⟩, asked) := by
    rw [show response = _ from serviceRequest_reliable serde.toSerdeJson hpath .list _, hanswer,
      hline.readServerMessage [] .closed]
    rfl
  have hfinished : finished =
      serviceList debug debugMessage (.ok ⟨protocolVersion, broker.state.reply io .list⟩) :=
    congrArg (fun response => serviceList debug debugMessage response.1) hresponse
  rw [hresponse, hfinished, BrokerState.reply]
  refine ⟨rfl, ?_⟩
  cases hready : broker.state.ready with
  | false =>
    have hnone : (lastPublished seen).isSome = false := hserved.ready.symm.trans hready
    rw [Option.isSome_eq_false_iff, Option.isNone_iff_eq_none] at hnone
    rw [hnone]
    refine ⟨⟨fun hcode => ?_, by simp⟩, by simp⟩
    exact absurd hcode (show (1 : UInt8) ≠ 0 by decide)
  | true =>
    refine ⟨⟨fun _ => hserved.ready.symm.trans hready, fun _ => rfl⟩, fun windows hw => ?_⟩
    rw [← hserved.windows hw]
    exact ⟨broker.state.revision, rfl⟩

section Minimized

open Json

def bubblesLine : Bytes :=
  text "\x7b\"version\":1,\"request\":\x7b\"type\":\"list\"\x7d\x7d"

def bubblesRequest : ClientRequest := ⟨1, .list⟩

def bubblesSerde : SerdeValue :=
  .ofLines [(handledLine, handledJson), (minimizedLine, minimizedJson),
    (bubblesLine, bubblesRequest.toJson), (kittyLine, kittySnapshot.toJson)] fun
    | .object [_, ("request", _)] => bubblesLine
    | _ => kittyLine

def bubblesInputs : List SessionInput :=
  [.connect .reliable ⟨.ok (⟨.ok (), .ok ()⟩,
    ⟨handledLine ++ newline :: minimizedStream.bytes, .closed⟩), .ok (), .ok ()⟩, .read,
    .turn .reliable]

lemma bubblesSerde_request : RequestText bubblesSerde.toSerdeJson bubblesRequest where
  line := .ofLines _ (by decide +kernel) (by decide +kernel) rfl (by decide +kernel)
  size := by decide +kernel
  allowed := ⟨.inl rfl, .inl rfl⟩

lemma bubblesSerde_snapshot : Subscription.MessageLine bubblesSerde.toSerdeJson kittySnapshot where
  line := .ofLines _ (by decide +kernel) (by decide +kernel) rfl (by decide +kernel)
  indexed := trivial

theorem list_shows_niri_minimized :
    (serviceList (fun _ => "") (fun _ => "") (.ok kittySnapshot)).code = 0 ∧
      ∃ stream seen, seen <+: messages bubblesSerde stream ∧ (lastPublished seen).isSome := by
  refine ⟨rfl, ?_⟩
  obtain ⟨connection, h⟩ : ∃ connection, (Session.after bubblesSerde loadedKitty bubblesInputs).process =
      .connected .kittyAndCode connection := ⟨_, rfl⟩
  have hwritten : (connection.controller.service.broker.serve bubblesSerde.toSerdeJson
      (.reliable, .connection ⟨bubblesSerde.print (ClientRequest.toJson ⟨protocolVersion, .list⟩) ++
        [newline], .closed⟩)).1 = [⟨0, kittySnapshot⟩] := by
    cases h
    decide +kernel
  obtain ⟨stream, since, service, watcher, -, hseen, hprinted⟩ := list_shows_niri (fun _ => "")
    (fun _ => "") bubblesSerde _ loadedKitty bubblesInputs _ _ h ⟨none, some "/run/user/1000"⟩ _ rfl
    bubblesSerde_request .reliable .closed
  obtain ⟨-, hcode, -⟩ := hprinted fun write hm => by
    obtain rfl := List.mem_singleton.mp (hwritten ▸ hm)
    exact bubblesSerde_snapshot
  refine ⟨stream, _, hseen, hcode.mp ?_⟩
  rw [hwritten]
  decide +kernel

end Minimized

end Melibea
