import Melibea.Socket

/-! As long as no unlink comes too late, a started service owns its path until it is dropped. -/

namespace Melibea.Socket

open Library Library.Interleaving Discipline

abbrev Processes := Threads ℕ World Call Call.Answer (Except ServiceError Unit)

abbrev Processes.step := socketDiscipline.step (α := Except ServiceError Unit)

inductive InitialPath
  | absent
  | occupied
  | stale
  | live
  deriving DecidableEq, Repr

def InitialPath.world : InitialPath → World
  | .absent => ⟨0, none, 1, fun _ => false, fun _ => none, nofun, by simp⟩
  | .occupied => ⟨0, some ⟨0, false⟩, 1, fun _ => false, fun _ => none, by simp, by simp⟩
  | .stale => ⟨0, some ⟨0, true⟩, 1, fun _ => false, fun _ => none, by simp, by simp⟩
  | .live => ⟨0, some ⟨0, true⟩, 1, fun inode => inode == 0,
      fun inode => if inode = 0 then some 0 else none, by simp, by simp⟩

-- Process 0 keeps the service that a live socket belongs to; every other one starts its own.
def InitialPath.processes (path : SocketPath) (initial : InitialPath) : Processes where
  world := initial.world
  threads
    | 0 => if initial = .live then Service.keep ⟨0, ⟨0, 0⟩⟩ else lifetime path
    | _ => lifetime path

namespace Processes

def service (s : Processes) (who : ℕ) : Option Service :=
  match s.threads who with
  | .call (.hold service) _ => some service
  | _ => none

def Probes (s : Processes) (who : ℕ) : Prop :=
  ∃ k, s.threads who = .call .connect k

structure KeepsLiveSocket (path : SocketPath) (s : Processes) : Prop where
  named {who : ℕ} {service : Service} :
    s.service who = some service → s.world.Owns who service.listener
  unique {who other : ℕ} :
    (s.service who).isSome → (s.service other).isSome → who = other
  alreadyRunning {who other : ℕ} (fault : Option String) :
    (s.service other).isSome → s.Probes who →
      (Processes.step s (who, fault)).2.threads who =
        .done (.error (.alreadyRunning path.path))

end Processes

def Prepares (path : SocketPath) :
    (call : Call) → (call.Answer → Process (Except ServiceError Unit)) → Prop
  | .connect, k => k true = .done (.error (.alreadyRunning path.path))
  | .isDir, _ | .symlinkMetadata, _ | .removeFile .stale, _ => True
  | _, _ => False

lemma prepareSocketPath_everywhere (path : SocketPath) :
    (prepareSocketPath path).Everywhere (Prepares path) := by
  unfold prepareSocketPath
  cases path.parent with
  | none => trivial
  | some parent =>
    refine Program.everywhere_call trivial fun dir => ?_
    cases dir with
    | false => trivial
    | true =>
      refine Program.everywhere_call trivial fun metadata => ?_
      rcases metadata with (_ | text) | metadata
      · trivial
      · trivial
      · cases hs : metadata.isSocket with
        | false => simp only [hs]; trivial
        | true =>
          simp only [hs]
          refine Program.everywhere_call rfl fun live => ?_
          cases live with
          | true => trivial
          | false =>
            refine Program.everywhere_call trivial fun removed => ?_
            cases removed <;> trivial

section Probe

variable {α β : Type}

def FailsOnLive (path : SocketPath) :
    (call : Call) → (call.Answer → Process (Except ServiceError α)) → Prop
  | .connect, k => k true = .done (.error (.alreadyRunning path.path))
  | _, _ => True

lemma Prepares.failsOnLive {path : SocketPath} {call : Call}
    {k : call.Answer → Process (Except ServiceError Unit)} (h : Prepares path call k) :
    FailsOnLive path call k := by
  cases call <;> first | exact h | trivial

lemma FailsOnLive.bind {path : SocketPath} {call : Call}
    {k : call.Answer → Process (Except ServiceError α)}
    {f : Except ServiceError α → Process (Except ServiceError β)}
    (hf : ∀ error, f (.error error) = .done (.error error)) (h : FailsOnLive path call k) :
    FailsOnLive path call fun a => (k a).bind f := by
  cases call <;> first | trivial | skip
  have hk : k true = .done (.error (.alreadyRunning path.path)) := h
  show (k true).bind f = _
  rw [hk]
  exact hf _

lemma failsOnLive_of_ne {path : SocketPath} {p : Process (Except ServiceError α)}
    (h : p.Everywhere fun call _ => call ≠ .connect) : p.Everywhere (FailsOnLive path) := by
  refine h.mono fun call k hc => ?_
  cases call <;> trivial

end Probe

lemma read_everywhere : SocketIdentity.read.Everywhere fun call _ => call ≠ .connect := by
  refine Program.everywhere_call (by simp) fun metadata => ?_
  cases metadata <;> trivial

lemma configureListener_everywhere (path : SocketPath) (listener : ℕ) :
    (configureListener path listener).Everywhere fun call _ => call ≠ .connect := by
  refine Program.everywhere_call (by simp) fun permitted => ?_
  cases permitted with
  | error source => trivial
  | ok _ =>
    refine read_everywhere.bind (fun _ _ h => h) fun identity => ?_
    cases identity with
    | error source => trivial
    | ok identity =>
      refine Program.everywhere_call (by simp) fun blocking => ?_
      cases blocking <;> trivial

lemma drop_everywhere (service : Service) :
    service.drop.Everywhere fun call _ => call ≠ .connect := by
  refine Program.everywhere_call (by simp) fun _ => ?_
  refine read_everywhere.bind (fun _ _ h => h) fun identity => ?_
  split
  · exact ⟨by simp, fun _ => trivial⟩
  · trivial

lemma keep_everywhere (service : Service) :
    service.keep.Everywhere fun call _ => call ≠ .connect := by
  refine Program.everywhere_call (by simp) fun _ => ?_
  exact (drop_everywhere service).bind (fun _ _ h => h) fun _ => trivial

lemma lifetime_everywhere (path : SocketPath) :
    (lifetime path).Everywhere (FailsOnLive path) := by
  refine Program.Everywhere.bind (P := FailsOnLive path) ?_
    (fun _ _ h => h.bind fun _ => rfl) fun started => ?_
  · refine (prepareSocketPath_everywhere path).bind
      (fun _ _ h => h.failsOnLive.bind fun _ => rfl) fun prepared => ?_
    cases prepared with
    | error error => trivial
    | ok _ =>
      refine failsOnLive_of_ne (Program.everywhere_call (by simp) fun bound => ?_)
      cases bound with
      | error source => trivial
      | ok listener =>
        refine (configureListener_everywhere path listener).bind (fun _ _ h => h) fun result => ?_
        cases result with
        | error error => exact ⟨by simp, fun _ => trivial⟩
        | ok service => trivial
  · cases started with
    | error error => trivial
    | ok service => exact failsOnLive_of_ne (keep_everywhere service)

section Specification

variable {path : SocketPath} {who listener : ℕ} {w : World}

lemma prepareSocketPath_ensures :
    socketDiscipline.Ensures who (fun _ _ => True) (prepareSocketPath path) w := by
  refine ensures_of_everywhere (prepareSocketPath_everywhere path) fun call k w h => ?_
  cases call with
  | removeFile removal =>
    cases removal with
    | stale => trivial
    | own identity => exact False.elim h
  | isDir | symlinkMetadata | connect => trivial
  | bind | setPermissions | setNonblocking | hold | closeListener => exact False.elim h

lemma ensures_quiet {α : Type} {Q : α → World → Prop} {P : World → Prop} {call : Call}
    {f : call.Answer → Process α} (hP : ∀ {w w'}, World.Keeps who w w' → P w → P w')
    (hcall : ∀ fault w, World.Demands who call w ∧ (w.perform who call fault).2 = w)
    (h : P w) (hf : ∀ a w, P w → socketDiscipline.Ensures who Q (f a) w) :
    socketDiscipline.Ensures who Q (Program.call call .done >>= f) w := by
  refine ensures_call fun w' hw => ⟨(hcall none w').1, fun _ fault => hf _ _ ?_⟩
  show P (w'.perform who call fault).2
  rw [(hcall fault w').2]
  exact hP hw h

lemma perform_symlinkMetadata (fault : Option String) (w : World) :
    (w.perform who .symlinkMetadata fault).2 = w := by
  cases fault <;> rfl

lemma perform_setPermissions (fault : Option String) (w : World) :
    (w.perform who .setPermissions fault).2 = w := by
  cases fault <;> cases he : w.entry <;> simp only [World.perform, he]

lemma perform_setNonblocking (fault : Option String) (w : World) :
    (w.perform who .setNonblocking fault).2 = w := by
  cases fault <;> rfl

lemma read_ensures (h : w.boundBy listener = some who) :
    socketDiscipline.Ensures who (fun _ w => w.boundBy listener = some who)
      SocketIdentity.read w := by
  refine ensures_quiet (P := fun w => w.boundBy listener = some who) (fun hk h => hk.boundBy h)
    (fun fault w => ⟨trivial, perform_symlinkMetadata fault w⟩) h fun metadata w h => ?_
  cases metadata <;> exact ensures_done fun w' hw => hw.boundBy h

lemma read_own_ensures (h : w.Owns who listener) :
    socketDiscipline.Ensures who
      (fun r w => w.Owns who listener ∧ ∀ identity, r = .ok identity →
        w.Serves who ⟨listener, identity⟩)
      SocketIdentity.read w := by
  refine ensures_call fun w' hw => ⟨trivial, fun _ fault => ?_⟩
  have ho := hw.owns h
  cases fault with
  | some text => exact ensures_done fun w'' hw' => ⟨hw'.owns ho, by simp⟩
  | none =>
    simp only [socketDiscipline, World.perform, World.metadata, ho.entry]
    refine ensures_done fun w'' hw' => ⟨hw'.owns ho, ?_⟩
    rintro _ ⟨⟩
    exact hw'.serves ⟨ho, rfl⟩

lemma configureListener_ensures (h : w.Owns who listener) :
    socketDiscipline.Ensures who
      (fun r w => w.boundBy listener = some who ∧ ∀ service, r = .ok service →
        w.Serves who service)
      (configureListener path listener) w := by
  refine ensures_quiet (P := fun w => w.Owns who listener) (fun hk h => hk.owns h)
    (fun fault w => ⟨trivial, perform_setPermissions fault w⟩) h fun permitted w h => ?_
  cases permitted with
  | error source => exact ensures_done fun w' hw => ⟨hw.boundBy h.boundBy, by simp⟩
  | ok _ =>
    refine (read_own_ensures h).bind fun identity w hread => ?_
    obtain ⟨ho, hs⟩ := hread
    cases identity with
    | error source => exact ensures_done fun w' hw => ⟨hw.boundBy ho.boundBy, by simp⟩
    | ok identity =>
      refine ensures_quiet (P := fun w => w.Serves who ⟨listener, identity⟩)
        (fun hk h => hk.serves h) (fun fault w => ⟨trivial, perform_setNonblocking fault w⟩)
        (hs _ rfl) fun blocking w hs => ?_
      cases blocking with
      | error source => exact ensures_done fun w' hw => ⟨hw.boundBy hs.owns.boundBy, by simp⟩
      | ok _ =>
        refine ensures_done fun w' hw => ⟨hw.boundBy hs.owns.boundBy, ?_⟩
        rintro _ ⟨⟩
        exact hw.serves hs

lemma start_ensures :
    socketDiscipline.Ensures who
      (fun r w => ∀ service, r = .ok service → w.Serves who service) (start path) w := by
  refine prepareSocketPath_ensures.bind fun prepared w _ => ?_
  cases prepared with
  | error error => exact ensures_done fun _ _ => by simp
  | ok _ =>
    refine ensures_call fun w' _ => ⟨trivial, fun _ fault => ?_⟩
    cases he : w'.entry with
    | some file =>
      simp only [socketDiscipline, World.perform, he]
      exact ensures_done fun _ _ => by simp
    | none =>
      simp only [socketDiscipline, World.perform, he]
      refine (configureListener_ensures (World.owns_bind who)).bind fun result w hresult => ?_
      obtain ⟨hb, hs⟩ := hresult
      cases result with
      | ok service => exact ensures_done fun w' hw _ h => hw.serves (hs _ h)
      | error error =>
        exact ensures_call fun w' hw => ⟨hw.boundBy hb, fun _ _ => ensures_done fun _ _ => by simp⟩

lemma drop_ensures {service : Service} (hb : w.boundBy service.listener = some who)
    (hi : service.socketIdentity.inode = service.listener) :
    socketDiscipline.Ensures who (fun _ _ => True) service.drop w := by
  refine ensures_call fun w' hw => ⟨hw.boundBy hb, fun _ _ => ?_⟩
  have hb' : (w'.close service.listener).boundBy service.listener = some who := hw.boundBy hb
  refine (read_ensures hb').bind fun identity w hb => ?_
  split
  · refine ensures_call fun w' hw => ⟨?_, fun _ _ => ensures_done fun _ _ => trivial⟩
    show w'.boundBy service.socketIdentity.inode = some who
    rw [hi]
    exact hw.boundBy hb
  · exact ensures_done fun _ _ => trivial

lemma keep_ensures {service : Service} (h : w.Serves who service) :
    socketDiscipline.Ensures who (fun _ _ => True) service.keep w := by
  refine ensures_call fun w' hw => ⟨hw.serves h, fun _ _ => ?_⟩
  have hs := hw.serves h
  exact (drop_ensures hs.owns.boundBy (congrArg SocketIdentity.inode hs.identity)).bind
    fun _ _ _ => ensures_done fun _ _ => trivial

lemma lifetime_ensures :
    socketDiscipline.Ensures who (fun _ _ => True) (lifetime path) w := by
  refine start_ensures.bind fun started w h => ?_
  cases started with
  | error error => exact ensures_done fun _ _ => trivial
  | ok service => exact keep_ensures (h service rfl)

end Specification

namespace Processes

variable {path : SocketPath}

lemma processes_ensures (path : SocketPath) (initial : InitialPath) (who : ℕ) :
    socketDiscipline.Ensures who (fun _ _ => True) ((initial.processes path).threads who)
      (initial.processes path).world := by
  cases who with
  | succ who => exact lifetime_ensures
  | zero =>
    by_cases hi : initial = .live
    · subst hi
      exact keep_ensures ⟨⟨rfl, rfl, rfl⟩, rfl⟩
    · simpa only [InitialPath.processes, hi, if_false] using lifetime_ensures

lemma processes_everywhere (path : SocketPath) (initial : InitialPath) (who : ℕ) :
    ((initial.processes path).threads who).Everywhere (FailsOnLive path) := by
  cases who with
  | succ who => exact lifetime_everywhere path
  | zero =>
    by_cases hi : initial = .live
    · subst hi
      exact failsOnLive_of_ne (keep_everywhere _)
    · simpa only [InitialPath.processes, hi, if_false] using lifetime_everywhere path

lemma exists_of_service {s : Processes} {who : ℕ} {service : Service}
    (h : s.service who = some service) : ∃ k, s.threads who = .call (.hold service) k := by
  unfold Processes.service at h
  split at h
  · next service' k hc => exact ⟨k, by rw [hc, Option.some.inj h]⟩
  · simp at h

variable {s : Processes}

lemma serves_of_service
    (h : ∀ who, socketDiscipline.Ensures who (fun _ _ => True) (s.threads who) s.world)
    {who : ℕ} {service : Service} (hs : s.service who = some service) :
    s.world.Serves who service := by
  obtain ⟨k, hk⟩ := exists_of_service hs
  exact Ensures.demands (Q := fun _ _ _ => True) (h who) hk

lemma keepsLiveSocket_of_ensures
    (h : ∀ who, socketDiscipline.Ensures who (fun _ _ => True) (s.threads who) s.world)
    (hlive : ∀ who, (s.threads who).Everywhere (FailsOnLive path)) : KeepsLiveSocket path s := by
  have hnamed {who : ℕ} {service : Service} (hs : s.service who = some service) :
      s.world.Owns who service.listener := (serves_of_service h hs).owns
  refine ⟨hnamed, fun {who other} hw ho => ?_, fun {who other} fault ho hprobes => ?_⟩
  · obtain ⟨service, hs⟩ := Option.isSome_iff_exists.mp hw
    obtain ⟨service', hs'⟩ := Option.isSome_iff_exists.mp ho
    exact (hnamed hs).unique (hnamed hs')
  · obtain ⟨k, hk⟩ := hprobes
    obtain ⟨service, hs⟩ := Option.isSome_iff_exists.mp ho
    have hfail := hlive who
    rw [hk] at hfail
    show (socketDiscipline.step s (who, fault)).2.threads who = _
    rw [step_call hk]
    show Function.update s.threads who (k s.world.accepts) who = _
    rw [Function.update_self]
    rw [(hnamed hs).accepts]
    exact hfail.1

/-- A live socket is never replaced while every unlink is timely: a started service owns the
path until it is dropped, no two services are up at once, a start that finds one fails with
`AlreadyRunning`, and a drop never removes another instance's socket. -/
theorem live_socket_kept (path : SocketPath) (initial : InitialPath)
    (events : List (ℕ × Option String))
    (hevents : Machine.Meets step socketDiscipline.Allowed (initial.processes path) events) :
    KeepsLiveSocket path (Machine.run step (initial.processes path) events) ∧
      ∀ o, some o ∈ Machine.outputs step (initial.processes path) events →
        ∀ identity, o.call = .removeFile (.own identity) → ∀ file ∈ o.world.entry,
          o.world.boundBy file.inode = some o.thread := by
  have h := processes_ensures path initial
  constructor
  · exact keepsLiveSocket_of_ensures (run_ensures h hevents)
      (run_everywhere (processes_everywhere path initial) events)
  · intro o ho identity hc file hf
    obtain ⟨hd, ha⟩ := performed_of_run h hevents ho
    rw [hc] at hd ha
    have hi : file.inode = identity.inode := congrArg SocketIdentity.inode (ha file hf)
    rw [hi]
    exact hd

instance (s : Processes) (event : ℕ × Option String) :
    Decidable (socketDiscipline.Allowed s event) := by
  unfold Allowed
  split
  · infer_instance
  · next call _ _ => exact inferInstanceAs (Decidable (World.Timely call s.world))

def userSocket : SocketPath := ⟨"/run/user/1000/melibea.sock", some "/run/user/1000"⟩

theorem live_socket_kept_from_stale :
    let events := List.replicate 8 (1, none) ++ List.replicate 3 (2, none)
    KeepsLiveSocket userSocket
        (Machine.run step (InitialPath.stale.processes userSocket) events) ∧
      ∀ o, some o ∈ Machine.outputs step (InitialPath.stale.processes userSocket) events →
        ∀ identity, o.call = .removeFile (.own identity) → ∀ file ∈ o.world.entry,
          o.world.boundBy file.inode = some o.thread :=
  live_socket_kept userSocket .stale
    (List.replicate 8 (1, none) ++ List.replicate 3 (2, none)) (by decide +kernel)

-- Both processes probe the stale socket before either unlinks it: the second unlink takes the
-- first one's live socket away, and both services are up.
theorem live_socket_replaced :
    ¬ KeepsLiveSocket userSocket (Machine.run step (InitialPath.stale.processes userSocket)
      (List.replicate 3 (1, none) ++ List.replicate 3 (2, none) ++
        List.replicate 5 (1, none) ++ List.replicate 5 (2, none))) := by
  intro h
  have hboth : 1 = 2 := h.unique (by decide +kernel) (by decide +kernel)
  exact absurd hboth (by decide)

end Processes

end Melibea.Socket
