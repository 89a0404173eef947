import Melibea.Departure

/-! Subscriptions whose peers are gone do not accumulate. -/

namespace Melibea

open Library BrokerState

namespace Network

def Sweep (self : Network) : NetworkInput → Prop
  | .message kernel message => self.Sweeps kernel message
  | .peer _ _ => False

instance decidableSweep (self : Network) : (input : NetworkInput) → Decidable (self.Sweep input)
  | .message kernel message => self.decidableSweeps kernel message
  | .peer _ _ => isFalse id

def sweeps (self : Network) (inputs : List NetworkInput) : ℕ :=
  Machine.count step Sweep self inputs

def Uninterrupted (inputs : List NetworkInput) : Prop :=
  ∀ kernel message, NetworkInput.message kernel message ∈ inputs →
    ∀ stream, kernel.interrupted stream = false

def NoStrayBytes (inputs : List NetworkInput) : Prop :=
  ∀ stream bytes, NetworkInput.peer stream (.send bytes) ∉ inputs

def NoHalfClose (inputs : List NetworkInput) : Prop :=
  ∀ stream, NetworkInput.peer stream .shutdownWrite ∉ inputs ∧
    NetworkInput.peer stream .shutdownRead ∉ inputs

variable {self : Network} {kernel : Kernel} {message : BrokerMessage} {stream : StreamId}

lemma sublist_of_not_sweep {input : NetworkInput} (h : ¬ self.Sweep input) :
    (self.step input).2.broker.state.subscribers.Sublist self.broker.state.subscribers := by
  cases input with
  | peer stream event => exact List.Sublist.refl _
  | message kernel message =>
    cases hcommand : message.command with
    | some command =>
      have hturn := self.broker.turn_command (kernel.io self.peers) hcommand
      simp only [step, hturn]
      exact self.broker.state.subscribers_obey _ command
    | none =>
      rw [subscribers_of_not_sweeps hcommand h]

lemma subscribers_step (self : Network) (input : NetworkInput) : ∃ kept : List Subscriber,
    kept.Sublist self.broker.state.subscribers ∧
    ((self.step input).2.broker.state.subscribers = kept ∨
      ∃ version, (self.step input).2.broker.state.subscribers =
        kept ++ [⟨version, self.broker.accepted⟩]) := by
  by_cases h : self.Sweep input
  · cases input with
    | peer stream event => exact h.elim
    | message kernel message =>
      obtain ⟨version, -, hsub⟩ := subscribers_of_sweeps h
      exact ⟨_, List.filter_sublist, .inr ⟨version, hsub⟩⟩
  · exact ⟨_, sublist_of_not_sweep h, .inl rfl⟩

lemma accepted_le_step (self : Network) (input : NetworkInput) :
    self.broker.accepted ≤ (self.step input).2.broker.accepted := by
  cases input with
  | message kernel message => exact self.broker.accepted_le_turn (kernel.io self.peers, message)
  | peer stream event => exact le_rfl

lemma registered_lt (ha : self.broker.Apart) (hr : self.Registered stream) :
    stream < self.broker.accepted := by
  obtain ⟨subscriber, hm, rfl⟩ := List.mem_map.mp hr
  exact ha.accepted subscriber hm

lemma registered_of_step {input : NetworkInput} (hold : stream < self.broker.accepted)
    (h : (self.step input).2.Registered stream) : self.Registered stream := by
  obtain ⟨kept, hkept, hsub⟩ := self.subscribers_step input
  obtain ⟨subscriber, hm, rfl⟩ := List.mem_map.mp h
  apply List.mem_map_of_mem
  rcases hsub with hsub | ⟨version, hsub⟩
  · exact hkept.subset (hsub ▸ hm)
  · rw [hsub, List.mem_append, List.mem_singleton] at hm
    rcases hm with hm | rfl
    · exact hkept.subset hm
    · exact absurd hold (lt_irrefl _)

lemma peers_of_peer (self : Network) (other : StreamId) (event : PeerEvent) (stream : StreamId) :
    (self.step (.peer other event)).2.peers stream =
      if stream = other then (self.peers stream).react event else self.peers stream := by
  simp only [step, Function.update_apply]
  split_ifs with he
  · rw [he]
  · rfl

lemma peers_of_not_sweep (h : ¬ self.Sweep (.message kernel message)) :
    (self.step (.message kernel message)).2.peers = self.peers := by
  funext stream
  exact if_neg fun hs => h hs.1

/-- A connection that the broker has seen and that, if it is still registered, is closed with
bytes left for fewer than the given number of sweeps. -/
structure Doomed (stream : StreamId) (sweeps : ℕ) (network : Network) : Prop where
  seen : stream < network.broker.accepted
  closed : network.Registered stream → (network.peers stream).writing = false
  unread : network.Registered stream → ((network.peers stream).pending + 63) / 64 + 1 ≤ sweeps

lemma Doomed.not_registered (h : Doomed stream 0 self) : ¬ self.Registered stream := by
  intro hr
  have := h.unread hr
  omega

lemma Doomed.sweep {n : ℕ} (h : Doomed stream n self) (ha : self.broker.Apart)
    (hs : self.Sweeps kernel message) (hi : kernel.interrupted stream = false) :
    Doomed stream (n - 1) (self.step (.message kernel message)).2 := by
  have hread : ∀ hr : (self.step (.message kernel message)).2.Registered stream,
      0 < (self.peers stream).pending ∧
        (self.step (.message kernel message)).2.peers stream =
          (self.peers stream).consume (.ok (min probeLength (self.peers stream).pending)) := by
    intro hnext
    have hr := registered_of_step h.seen hnext
    have hn := (registered_of_sweeps ha hs hr).mp hnext
    rw [departed_iff, not_or] at hn
    have hpeer : (self.step (.message kernel message)).2.peers stream =
        (self.peers stream).consume ((kernel.io self.peers).read stream) := if_pos ⟨hs, hr⟩
    rcases Peer.read_closed (h.closed hr) (kernel.reset stream) with he | he | ⟨hp, he⟩ <;>
      rw [← hi] at he
    · exact absurd he hn.1
    · exact absurd he hn.2
    · exact ⟨hp, hpeer.trans (congrArg _ he)⟩
  refine ⟨h.seen.trans_le (self.accepted_le_step _), fun hnext => ?_, fun hnext => ?_⟩
  · rw [(hread hnext).2]
    exact h.closed (registered_of_step h.seen hnext)
  · obtain ⟨hp, hpeer⟩ := hread hnext
    have hn := h.unread (registered_of_step h.seen hnext)
    rw [hpeer, Peer.consume, probeLength]
    dsimp only
    omega

lemma Doomed.peer {n : ℕ} (h : Doomed stream n self) (other : StreamId) (event : PeerEvent) :
    Doomed stream n (self.step (.peer other event)).2 := by
  have hpeer : self.Registered stream →
      ((self.step (.peer other event)).2.peers stream).writing = false ∧
        ((self.step (.peer other event)).2.peers stream).pending =
          (self.peers stream).pending := by
    intro hr
    have hw := h.closed hr
    rw [peers_of_peer]
    split_ifs
    · cases event <;> simp [Peer.react, hw]
    · exact ⟨hw, rfl⟩
  refine ⟨h.seen, fun hr => (hpeer hr).1, fun hr => ?_⟩
  rw [(hpeer hr).2]
  exact h.unread hr

lemma Doomed.step {n : ℕ} (h : Doomed stream n self) (ha : self.broker.Apart)
    {input : NetworkInput}
    (hi : ∀ kernel message, input = .message kernel message → kernel.interrupted stream = false) :
    Doomed stream (if self.Sweep input then n - 1 else n) (self.step input).2 := by
  cases input with
  | peer other event => exact h.peer other event
  | message kernel message =>
    by_cases hs : self.Sweep (.message kernel message)
    · rw [if_pos hs]
      exact h.sweep ha hs (hi kernel message rfl)
    · rw [if_neg hs]
      have hpeers := peers_of_not_sweep hs
      refine ⟨h.seen.trans_le (self.accepted_le_step _), fun hr => ?_, fun hr => ?_⟩ <;>
        rw [hpeers]
      · exact h.closed (registered_of_step h.seen hr)
      · exact h.unread (registered_of_step h.seen hr)

lemma apart_step (ha : self.broker.Apart) (input : NetworkInput) :
    (self.step input).2.broker.Apart := by
  cases input with
  | peer other event => exact ha
  | message kernel message => exact ha.turn (kernel.io self.peers, message)

lemma Doomed.run {n : ℕ} (h : Doomed stream n self) (ha : self.broker.Apart)
    {inputs : List NetworkInput} (hi : Uninterrupted inputs) :
    Doomed stream (n - self.sweeps inputs) (Machine.run Network.step self inputs) := by
  refine (Machine.run_of_count Network.step
    (P := fun n network => Doomed stream n network ∧ network.broker.Apart)
    (fun input hm n network hn => ⟨hn.1.step hn.2 ?_, apart_step hn.2 input⟩) ⟨h, ha⟩).1
  rintro kernel message rfl
  exact hi kernel message hm stream

lemma no_pending {inputs : List NetworkInput} (hb : NoStrayBytes inputs) (stream : StreamId) :
    ((after inputs).peers stream).pending = 0 := by
  refine Machine.run_invariant_of_mem Network.step
    (P := fun network => (network.peers stream).pending = 0) (fun input hm network hn => ?_) rfl
  cases input with
  | peer other event =>
    rw [peers_of_peer]
    split_ifs with he
    · cases event with
      | send bytes => exact absurd hm (hb other bytes)
      | _ => exact hn
    · exact hn
  | message kernel message =>
    have hconsume : ∀ outcome, ((network.peers stream).consume outcome).pending = 0 := by
      intro outcome
      cases outcome <;> simp [Peer.consume, hn]
    change (network.probed kernel message stream).pending = 0
    rw [probed]
    split_ifs
    · exact hconsume _
    · exact hn

lemma departed_of_no_pending (hp : (self.peers stream).pending = 0)
    (hi : kernel.interrupted stream = false) :
    subscriberDeparted (kernel.io self.peers) stream = !(self.peers stream).writing := by
  rw [Bool.eq_iff_iff, departed_iff, Bool.not_eq_true']
  cases hw : (self.peers stream).writing with
  | false => simpa [Kernel.io, hi, hp] using Peer.read_closed hw (kernel.reset stream)
  | true => simp [Kernel.io, Peer.read, hi, hp, hw]

lemma swept_of_no_pending (hp : ∀ stream, (self.peers stream).pending = 0)
    (hi : ∀ stream, kernel.interrupted stream = false) {version : UInt32}
    (hs : self.Sweeps kernel (.client version .subscribe)) :
    (self.step (.message kernel (.client version .subscribe))).2.broker.state.subscribers =
      self.broker.state.subscribers.filter (fun subscriber =>
        (self.peers subscriber.stream).writing) ++ [⟨version, self.broker.accepted⟩] := by
  obtain ⟨version', he, hsub⟩ := subscribers_of_sweeps hs
  obtain rfl : version = version' := (BrokerMessage.client.inj he).1
  rw [hsub, sweepDeparted]
  refine congrArg (· ++ _) (List.filter_congr fun subscriber _ => ?_)
  rw [departed_of_no_pending (hp _) (hi _), Bool.not_not]

lemma sublist_of_sweeps_eq_zero {inputs : List NetworkInput} (h : self.sweeps inputs = 0) :
    (Machine.run step self inputs).broker.state.subscribers.Sublist
      self.broker.state.subscribers := by
  induction inputs generalizing self with
  | nil => exact List.Sublist.refl _
  | cons input inputs ih =>
    rw [sweeps, Machine.count, Nat.add_eq_zero_iff] at h
    have hn : ¬ self.Sweep input := by
      intro hs
      rw [if_pos hs] at h
      exact absurd h.1 one_ne_zero
    exact (ih h.2).trans (sublist_of_not_sweep hn)

lemma ordered (inputs : List NetworkInput) :
    ((after inputs).broker.state.subscribers.map (·.stream)).Pairwise (· < ·) := by
  refine (Machine.run_invariant Network.step
    (P := fun network => network.broker.Apart ∧
      (network.broker.state.subscribers.map (·.stream)).Pairwise (· < ·))
    (fun network input h => ⟨apart_step h.1 input, ?_⟩) ⟨apart [], List.Pairwise.nil⟩ inputs).2
  obtain ⟨kept, hkept, hsub⟩ := network.subscribers_step input
  have hordered := h.2.sublist (hkept.map _)
  rcases hsub with hsub | ⟨version, hsub⟩ <;> rw [hsub]
  · exact hordered
  · rw [List.map_append, List.pairwise_append]
    refine ⟨hordered, List.pairwise_singleton _ _, fun stream hm other ho => ?_⟩
    obtain ⟨subscriber, hs, rfl⟩ := List.mem_map.mp hm
    rw [List.map_singleton, List.mem_singleton] at ho
    exact ho ▸ h.1.accepted subscriber (hkept.subset hs)

lemma whole {inputs : List NetworkInput} (h : NoHalfClose inputs) (stream : StreamId) :
    ((after inputs).peers stream).writing = ((after inputs).peers stream).reading := by
  refine Machine.run_invariant_of_mem Network.step
    (P := fun network => (network.peers stream).writing = (network.peers stream).reading)
    (fun input hm network hn => ?_) rfl
  cases input with
  | peer other event =>
    rw [peers_of_peer]
    split_ifs with he
    · cases event with
      | send bytes =>
        rw [Peer.react]
        split_ifs <;> exact hn
      | shutdownWrite => exact absurd hm (h other).1
      | shutdownRead => exact absurd hm (h other).2
      | close => rfl
    · exact hn
  | message kernel message =>
    change (network.probed kernel message stream).writing =
      (network.probed kernel message stream).reading
    rw [probed]
    split_ifs
    · cases (kernel.io network.peers).read stream <;> exact hn
    · exact hn

end Network

open Network

/-- A closed subscription goes within one sweep for each 64 bytes its peer left unread and one
more, whatever the others do. Without stray bytes each successful subscription leaves exactly the
subscribers whose peers are open and the new one, so that until the next one there are never more;
a peer that closes does so in both directions unless it shuts down one half. -/
theorem abandoned_subscriptions_bounded (inputs : List NetworkInput) (hi : Uninterrupted inputs) :
    (∀ before rest stream, inputs = before ++ rest →
      (Network.after before).Registered stream →
      ((Network.after before).peers stream).writing = false →
      (((Network.after before).peers stream).pending + 63) / 64 + 1 ≤
        (Network.after before).sweeps rest →
      ¬ (Network.after inputs).Registered stream) ∧
    (NoStrayBytes inputs →
      (Network.start.sweeps inputs = 0 → (Network.after inputs).broker.state.subscribers = []) ∧
      ∀ before kernel version rest,
        let network := Network.after before
        let subscribe : NetworkInput := .message kernel (.client version .subscribe)
        let stillOpen := network.broker.state.subscribers.filter fun subscriber =>
          (network.peers subscriber.stream).writing
        inputs = before ++ subscribe :: rest →
        network.Sweeps kernel (.client version .subscribe) →
        (Network.after (before ++ [subscribe])).broker.state.subscribers =
            stillOpen ++ [⟨version, network.broker.accepted⟩] ∧
          ((Network.after (before ++ [subscribe])).sweeps rest = 0 →
            (Network.after inputs).broker.state.subscribers.length ≤ stillOpen.length + 1)) ∧
    ((Network.after inputs).broker.state.subscribers.map (·.stream)).Pairwise (· < ·) ∧
    (NoHalfClose inputs → ∀ stream, ((Network.after inputs).peers stream).writing =
      ((Network.after inputs).peers stream).reading) := by
  refine ⟨?_, fun hb => ⟨fun h => ?_, ?_⟩, ordered inputs, whole⟩
  · rintro before rest stream rfl hr hw hle
    have hdoomed : Doomed stream ((((Network.after before).peers stream).pending + 63) / 64 + 1)
        (Network.after before) :=
      ⟨registered_lt (apart before) hr, fun _ => hw, fun _ => le_rfl⟩
    have hrest : Uninterrupted rest := fun kernel message hm =>
      hi kernel message (List.mem_append_right _ hm)
    have hrun := hdoomed.run (apart before) hrest
    rw [Nat.sub_eq_zero_of_le hle, ← Machine.run_append] at hrun
    exact hrun.not_registered
  · exact List.sublist_nil.mp (sublist_of_sweeps_eq_zero h)
  · rintro before kernel version rest network subscribe stillOpen rfl hs
    have hpending : ∀ stream, (network.peers stream).pending = 0 :=
      no_pending fun stream bytes hm => hb stream bytes (List.mem_append_left _ hm)
    have hswept := swept_of_no_pending hpending (fun stream => hi kernel _
      (List.mem_append_right _ List.mem_cons_self) stream) hs
    have hnext : Network.after (before ++ [subscribe]) = (network.step subscribe).2 := by
      rw [Network.after, Machine.run_append]
      rfl
    rw [hnext]
    refine ⟨hswept, fun hrest => ?_⟩
    have hlen := (sublist_of_sweeps_eq_zero hrest).length_le
    rw [hswept, List.length_append, List.length_singleton] at hlen
    rwa [Network.after, Machine.run_append, Machine.run_cons]

theorem abandoned_subscriptions_bounded_unread :
    let subscribe : NetworkInput := .message .quiet (.client 2 .subscribe)
    let before := [subscribe, subscribe, .peer 0 (.send 100), .peer 0 .close]
    let rest := [subscribe, .peer 3 (.send 1), subscribe, subscribe]
    (Network.after before).Registered 0 ∧ (Network.after (before ++ rest.take 3)).Registered 0 ∧
      ¬ (Network.after (before ++ rest)).Registered 0 := by
  intro subscribe before rest
  have hi : Uninterrupted (before ++ rest) := by
    intro kernel message hm
    have hquiet : kernel = .quiet ∧ message = .client 2 .subscribe := by
      simpa [before, rest, subscribe] using hm
    rw [hquiet.1]
    exact fun _ => rfl
  refine ⟨by decide +kernel, by decide +kernel, ?_⟩
  exact (abandoned_subscriptions_bounded _ hi).1 before rest 0 rfl (by decide +kernel)
    (by decide +kernel) (by decide +kernel)

end Melibea
