import Melibea.Daemon
import Melibea.Targets

/-! A message of niri's stream is ingested whole or not at all. -/

namespace Melibea

open Library

inductive Rejected : StreamMessage → Prop
  | failed (error : String) : Rejected (.error error)
  | closed : Rejected (.ok none)
  | repeatedId {windows : List MinimizedWindow} (h : ¬ (windows.map (·.id)).Nodup) :
    Rejected (.ok (some (.minimizedWindowsChanged windows)))
  | focusedTwice {windows : List NiriWindow} (h : 1 < (windows.filter (·.isFocused)).length) :
    Rejected (.ok (some (.windowsChanged windows)))

lemma NiriAdapter.apply_ok (self : NiriAdapter) {event : NiriEvent}
    (h : ∀ windows, event = .windowsChanged windows → Accepted windows) :
    ∃ transition, (self.apply event).1 = .ok transition := by
  cases event with
  | windowsChanged windows =>
    rw [apply_accepted _ (h windows rfl)]
    exact ⟨_, rfl⟩
  | windowOpenedOrChanged window =>
    by_cases hr : self.Relevant window
    · rw [apply_opened_relevant _ hr]
      exact ⟨_, rfl⟩
    · rw [apply_opened_silent _ hr]
      exact ⟨_, rfl⟩
  | _ => exact ⟨_, rfl⟩

namespace Controller

variable {self : Controller}

lemma ingestEvent_ok {event : NiriEvent}
    (h : ∀ windows, event = .windowsChanged windows → Accepted windows) :
    (self.ingestEvent event).1 = .ok () := by
  obtain ⟨transition, ht⟩ := self.adapter.apply_ok h
  rw [ingestEvent]
  rcases he : self.adapter.apply event with ⟨_ | _, adapter⟩
  · rw [he] at ht
    cases ht
  · rfl

variable (self) in
lemma ingestStreamMessage_rejected {message : StreamMessage} (h : Rejected message) (io : Io) :
    ∃ error, self.ingestStreamMessage io message = (([], .error error), self) := by
  cases h with
  | failed error => exact ⟨error, rfl⟩
  | closed => exact ⟨_, rfl⟩
  | repeatedId hn =>
    obtain ⟨error, he⟩ := Daemon.replaceSnapshot_error self.minimized hn
    simp only [ingestStreamMessage, ingestMinimized, MinimizedRegistry.apply, he]
    exact ⟨_, rfl⟩
  | @focusedTwice windows hf =>
    have hrejected := self.adapter.apply_rejected (show ¬ Accepted windows by simpa [Accepted])
    rw [Daemon.ingestStreamMessage_event self io (by simp), ingestEvent, hrejected]
    exact ⟨_, rfl⟩

lemma ingestStreamMessage_accepted (hs : self.service.running) {message : StreamMessage}
    (h : ¬ Rejected message) (io : Io) : (self.ingestStreamMessage io message).1.2 = .ok () := by
  rcases message with error | _ | event
  · exact absurd (.failed error) h
  · exact absurd .closed h
  · have haccepted : ∀ windows, event = .windowsChanged windows → Accepted windows := by
      rintro windows rfl
      by_contra ha
      exact h (.focusedTwice (by simpa [Accepted] using ha))
    by_cases hmin : ∃ windows, event = .minimizedWindowsChanged windows
    · obtain ⟨windows, rfl⟩ := hmin
      have hn : (windows.map (·.id)).Nodup := by
        by_contra hn
        exact h (.repeatedId hn)
      obtain ⟨change, hok, -⟩ := Daemon.replaceSnapshot_ok self.minimized hn
      simp only [ingestStreamMessage, ingestMinimized, MinimizedRegistry.apply]
      rcases hm : self.minimized.replaceSnapshot windows with ⟨_ | _, registry⟩
      · rw [hm] at hok
        cases hok
      · simp only [Service.publishSnapshot, Service.sendSynchronized, hs, if_true]
        rfl
    · rw [Daemon.ingestStreamMessage_event self io (not_exists.mp hmin)]
      exact ingestEvent_ok haccepted

end Controller

open Controller

/-- While the broker runs, exactly the messages that end the stream or break a rule of niri's
snapshots are errors, and an error leaves all four components as they were. -/
theorem rejected_changes_nothing (controller : Controller) (hs : controller.service.running)
    (io : Io) (message : StreamMessage) :
    let outcome := controller.ingestStreamMessage io message
    ((∃ error, outcome.1.2 = .error error) ↔ Rejected message) ∧
      ∀ error, outcome.1.2 = .error error → outcome.1.1 = [] ∧ outcome.2 = controller := by
  intro outcome
  by_cases h : Rejected message
  · obtain ⟨error, he⟩ := ingestStreamMessage_rejected controller h io
    simp only [outcome, he]
    exact ⟨iff_of_true ⟨error, rfl⟩ h, fun _ _ => by simp⟩
  · have hok : outcome.1.2 = .ok () := ingestStreamMessage_accepted hs h io
    rw [hok]
    exact ⟨iff_of_false (by simp) h, by simp⟩

theorem rejected_changes_nothing_two_focused :
    let kitty : NiriWindow := ⟨10, some "window", some "kitty", true, false⟩
    let code : NiriWindow := ⟨20, some "window", some "code", true, false⟩
    let snapshot : StreamMessage := .ok (some (.minimizedWindowsChanged [⟨30, none, none⟩]))
    let controller := after .kittyAndCode .start
      [.message .reliable snapshot, .message .reliable (.ok (some (.windowsChanged [kitty])))]
    let outcome := controller.ingestStreamMessage .reliable
      (.ok (some (.windowsChanged [kitty, code])))
    (∃ error, outcome.1.2 = .error error) ∧ outcome.1.1 = [] ∧ outcome.2 = controller := by
  intro kitty code snapshot controller outcome
  have h := rejected_changes_nothing controller (by decide +kernel) .reliable
    (.ok (some (.windowsChanged [kitty, code])))
  obtain ⟨error, he⟩ := h.1.mpr (.focusedTwice (by decide))
  exact ⟨⟨error, he⟩, h.2 error he⟩

end Melibea
