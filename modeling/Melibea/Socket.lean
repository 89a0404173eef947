import Melibea.Library.Interleaving

/-! The system calls of `Service::start` and `Drop` on the socket path; each is atomic and between
two any other process may act. -/

namespace Melibea.Socket

open Library.Interleaving

structure SocketPath where
  path : String
  parent : Option String
  deriving DecidableEq, Repr

inductive IoError
  | notFound
  | other (text : String)
  deriving DecidableEq, Repr

inductive ServiceError
  | invalidPath (path : String)
  | missingParent (parent : String)
  | occupiedPath (path : String)
  | alreadyRunning (path : String)
  | inspect (path : String) (source : IoError)
  | removeStale (path : String) (source : IoError)
  | bind (path : String) (source : IoError)
  | permissions (path : String) (source : IoError)
  | nonblocking (source : IoError)
  deriving DecidableEq, Repr

structure SocketIdentity where
  device : ℕ
  inode : ℕ
  deriving DecidableEq, Repr

structure Metadata where
  dev : ℕ
  ino : ℕ
  isSocket : Bool
  deriving DecidableEq, Repr

structure Service where
  listener : ℕ
  socketIdentity : SocketIdentity
  deriving DecidableEq, Repr

-- Which of the two `remove_file` calls is meant; the kernel does not see it.
inductive Removal
  | stale
  | own (identity : SocketIdentity)
  deriving DecidableEq, Repr

inductive Call
  | isDir
  | symlinkMetadata
  | connect
  | removeFile (removal : Removal)
  | bind
  | setPermissions
  | setNonblocking
  -- The owner keeps the service; the call returns when the owner drops it.
  | hold (service : Service)
  | closeListener (listener : ℕ)
  deriving DecidableEq, Repr

abbrev Call.Answer : Call → Type
  | .isDir | .connect => Bool
  | .symlinkMetadata => Except IoError Metadata
  | .removeFile _ | .setPermissions | .setNonblocking => Except IoError Unit
  | .bind => Except IoError ℕ
  | .hold _ | .closeListener _ => Unit

abbrev Process := Program Call Call.Answer

def isDir : Process Bool := .call .isDir .done
def symlinkMetadata : Process (Except IoError Metadata) := .call .symlinkMetadata .done
def connect : Process Bool := .call .connect .done
def removeFile (removal : Removal) : Process (Except IoError Unit) :=
  .call (.removeFile removal) .done
def bindListener : Process (Except IoError ℕ) := .call .bind .done
def setPermissions : Process (Except IoError Unit) := .call .setPermissions .done
def setNonblocking : Process (Except IoError Unit) := .call .setNonblocking .done
def hold (service : Service) : Process Unit := .call (.hold service) .done
def closeListener (listener : ℕ) : Process Unit := .call (.closeListener listener) .done

def SocketIdentity.read : Process (Except IoError SocketIdentity) := do
  match ← symlinkMetadata with
  | .error error => return .error error
  | .ok metadata => return .ok ⟨metadata.dev, metadata.ino⟩

def prepareSocketPath (path : SocketPath) : Process (Except ServiceError Unit) := do
  match path.parent with
  | none => return .error (.invalidPath path.path)
  | some parent =>
    if !(← isDir) then return .error (.missingParent parent)
    match ← symlinkMetadata with
    | .error .notFound => return .ok ()
    | .error source => return .error (.inspect path.path source)
    | .ok metadata =>
      if !metadata.isSocket then return .error (.occupiedPath path.path)
      if ← connect then return .error (.alreadyRunning path.path)
      match ← removeFile .stale with
      | .error source => return .error (.removeStale path.path source)
      | .ok () => return .ok ()

-- The steps of `start` on its bound listener.
def configureListener (path : SocketPath) (listener : ℕ) :
    Process (Except ServiceError Service) := do
  match ← setPermissions with
  | .error source => return .error (.permissions path.path source)
  | .ok () =>
    match ← SocketIdentity.read with
    | .error source => return .error (.inspect path.path source)
    | .ok socketIdentity =>
      match ← setNonblocking with
      | .error source => return .error (.nonblocking source)
      | .ok () => return .ok { listener, socketIdentity }

def start (path : SocketPath) : Process (Except ServiceError Service) := do
  match ← prepareSocketPath path with
  | .error error => return .error error
  | .ok () =>
    match ← bindListener with
    | .error source => return .error (.bind path.path source)
    | .ok listener =>
      match ← configureListener path listener with
      -- Returning an error drops the listener.
      | .error error =>
        closeListener listener
        return .error error
      | .ok service => return .ok service

-- The accept thread owns the listener, and `drop` joins that thread first.
def Service.drop (service : Service) : Process Unit := do
  closeListener service.listener
  let identity ← SocketIdentity.read
  if identity.toOption = some service.socketIdentity then
    let _ ← removeFile (.own service.socketIdentity)

def Service.keep (service : Service) : Process (Except ServiceError Unit) := do
  hold service
  service.drop
  return .ok ()

def lifetime (path : SocketPath) : Process (Except ServiceError Unit) := do
  match ← start path with
  | .error error => return .error error
  | .ok service => service.keep

structure File where
  inode : ℕ
  isSocket : Bool
  deriving DecidableEq, Repr

/-- What the path names and which sockets are open. `boundBy` records who bound each socket;
no call reads it. Inode numbers from `fresh` on have never been used. -/
structure World where
  device : ℕ
  entry : Option File
  fresh : ℕ
  listening : ℕ → Bool
  boundBy : ℕ → Option ℕ
  entry_lt {file : File} : entry = some file → file.inode < fresh
  boundBy_lt {inode who : ℕ} : boundBy inode = some who → inode < fresh

namespace World

def accepts (w : World) : Bool :=
  w.entry.any fun file => file.isSocket && w.listening file.inode

def unlink (w : World) : World where
  device := w.device
  entry := none
  fresh := w.fresh
  listening := w.listening
  boundBy := w.boundBy
  entry_lt := nofun
  boundBy_lt := w.boundBy_lt

def close (w : World) (listener : ℕ) : World where
  device := w.device
  entry := w.entry
  fresh := w.fresh
  listening := Function.update w.listening listener false
  boundBy := w.boundBy
  entry_lt := w.entry_lt
  boundBy_lt := w.boundBy_lt

def bind (w : World) (who : ℕ) : World where
  device := w.device
  entry := some ⟨w.fresh, true⟩
  fresh := w.fresh + 1
  listening := Function.update w.listening w.fresh true
  boundBy := Function.update w.boundBy w.fresh (some who)
  entry_lt := by
    rintro _ ⟨⟩
    exact Nat.lt_succ_self _
  boundBy_lt := by
    intro inode owner h
    rcases eq_or_ne inode w.fresh with rfl | hi
    · exact Nat.lt_succ_self _
    · exact Nat.lt_succ_of_lt (w.boundBy_lt (by rwa [Function.update_of_ne hi] at h))

def metadata (w : World) : Except IoError Metadata :=
  match w.entry with
  | none => .error .notFound
  | some file => .ok ⟨w.device, file.inode, file.isSocket⟩

-- With a `fault` the kernel refuses a call for a reason of its own, where it can.
def perform (who : ℕ) (call : Call) (fault : Option String) (w : World) :
    call.Answer × World :=
  match call with
  | .isDir => (fault.isNone, w)
  | .symlinkMetadata =>
    match fault with
    | some text => (.error (.other text), w)
    | none => (w.metadata, w)
  | .connect => (w.accepts, w)
  | .removeFile _ =>
    match fault, w.entry with
    | some text, _ => (.error (.other text), w)
    | none, none => (.error .notFound, w)
    | none, some _ => (.ok (), w.unlink)
  | .bind =>
    match w.entry with
    | some _ => (.error (.other "Address already in use"), w)
    | none => (.ok w.fresh, w.bind who)
  | .setPermissions =>
    match fault, w.entry with
    | some text, _ => (.error (.other text), w)
    | none, none => (.error .notFound, w)
    | none, some _ => (.ok (), w)
  | .setNonblocking =>
    match fault with
    | some text => (.error (.other text), w)
    | none => (.ok (), w)
  | .hold _ => ((), w)
  | .closeListener listener => ((), w.close listener)

structure Owns (who inode : ℕ) (w : World) : Prop where
  entry : w.entry = some ⟨inode, true⟩
  listening : w.listening inode = true
  boundBy : w.boundBy inode = some who

structure Serves (who : ℕ) (service : Service) (w : World) : Prop where
  owns : w.Owns who service.listener
  identity : service.socketIdentity = ⟨w.device, service.listener⟩

structure Keeps (who : ℕ) (w w' : World) : Prop where
  device : w'.device = w.device
  boundBy {inode : ℕ} : w.boundBy inode = some who → w'.boundBy inode = some who
  owns {inode : ℕ} : w.Owns who inode → w'.Owns who inode

def Demands (who : ℕ) : Call → World → Prop
  | .hold service, w => w.Serves who service
  | .closeListener listener, w => w.boundBy listener = some who
  | .removeFile (.own identity), w => w.boundBy identity.inode = some who
  | _, _ => True

/-- No unlink comes too late: the one of `prepare_socket_path` is made while the path names no
listening socket, the one of `Drop` while it names nothing or what the identity check read. -/
def Timely : Call → World → Prop
  | .removeFile .stale, w => w.accepts = false
  | .removeFile (.own identity), w =>
      ∀ file ∈ w.entry, (⟨w.device, file.inode⟩ : SocketIdentity) = identity
  | _, _ => True

instance (call : Call) (w : World) : Decidable (Timely call w) := by
  unfold Timely
  split <;> infer_instance

lemma Owns.accepts {who inode : ℕ} {w : World} (h : w.Owns who inode) : w.accepts = true := by
  simp [World.accepts, h.entry, h.listening]

lemma Owns.unique {who other inode inode' : ℕ} {w : World} (h : w.Owns who inode)
    (h' : w.Owns other inode') : who = other := by
  have he : inode = inode' := by simpa using h.entry.symm.trans h'.entry
  subst he
  exact Option.some.inj (h.boundBy.symm.trans h'.boundBy)

lemma owns_bind {w : World} (who : ℕ) : (w.bind who).Owns who w.fresh :=
  ⟨rfl, Function.update_self _ _ _, Function.update_self _ _ _⟩

lemma Keeps.refl (who : ℕ) (w : World) : Keeps who w w := ⟨rfl, id, id⟩

lemma Keeps.trans {who : ℕ} {w w' w'' : World} (h : Keeps who w w') (h' : Keeps who w' w'') :
    Keeps who w w'' :=
  ⟨h'.device.trans h.device, h'.boundBy ∘ h.boundBy, h'.owns ∘ h.owns⟩

lemma Keeps.serves {who : ℕ} {service : Service} {w w' : World} (h : Keeps who w w')
    (hs : w.Serves who service) : w'.Serves who service :=
  ⟨h.owns hs.owns, h.device ▸ hs.identity⟩

lemma keeps_unlink {who : ℕ} {w : World} (h : ∀ inode, ¬ w.Owns who inode) :
    Keeps who w w.unlink :=
  ⟨rfl, id, fun ho => absurd ho (h _)⟩

lemma keeps_close {who other listener : ℕ} {w : World} (hne : other ≠ who)
    (h : w.boundBy listener = some who) : Keeps other w (w.close listener) := by
  refine ⟨rfl, id, fun {inode} ho => ⟨ho.entry, ?_, ho.boundBy⟩⟩
  have hi : inode ≠ listener := by
    rintro rfl
    exact hne (Option.some.inj (ho.boundBy.symm.trans h))
  exact (Function.update_of_ne hi _ _).trans ho.listening

lemma keeps_bind {other : ℕ} {w : World} (who : ℕ) (h : w.entry = none) :
    Keeps other w (w.bind who) := by
  refine ⟨rfl, fun {inode} hb => ?_, fun ho => absurd (ho.entry.symm.trans h) (by simp)⟩
  exact (Function.update_of_ne (w.boundBy_lt hb).ne _ _).trans hb

lemma keeps_perform {who other : ℕ} {call : Call} {w : World} (fault : Option String)
    (hne : other ≠ who) (hd : Demands who call w) (ht : Timely call w) :
    Keeps other w (w.perform who call fault).2 := by
  cases call with
  | removeFile removal =>
    have hfree : ∀ inode, ¬ w.Owns other inode := by
      intro inode ho
      cases removal with
      | stale => simp [Timely, ho.accepts] at ht
      | own identity =>
        have hi : inode = identity.inode := congrArg SocketIdentity.inode (ht _ ho.entry)
        exact hne (Option.some.inj (ho.boundBy.symm.trans (hi ▸ hd)))
    cases fault with
    | some text => exact .refl other w
    | none =>
      cases he : w.entry with
      | none => simpa only [perform, he] using Keeps.refl other w
      | some file => simpa only [perform, he] using keeps_unlink hfree
  | bind =>
    cases he : w.entry with
    | none => simpa only [perform, he] using keeps_bind who he
    | some file => simpa only [perform, he] using Keeps.refl other w
  | closeListener listener => exact keeps_close hne hd
  | setPermissions => cases fault <;> cases he : w.entry <;> simp only [perform, he, Keeps.refl]
  | symlinkMetadata | setNonblocking => cases fault <;> exact .refl other w
  | isDir | connect | hold service => exact .refl other w

end World

def socketDiscipline : Discipline ℕ World (Option String) Call Call.Answer where
  perform := fun who call fault w => w.perform who call fault
  keeps := World.Keeps
  demands := World.Demands
  allows := fun _ => World.Timely
  keeps_refl := World.Keeps.refl
  keeps_trans := World.Keeps.trans
  keeps_perform := World.keeps_perform

end Melibea.Socket
