import Mathlib.Data.Int.Notation
import CameraDaemon.Lib.FdTable
import CameraDaemon.Lib.Memory

/-!
# What the daemon gets from the system

The daemon opens one listening socket, one descriptor for each accepted connection and one UDP
socket for each cast.  A connection is identified by the order in which it was accepted, never by
its descriptor, which the system issues again after a close.  The encoders hand their output to the
daemon in buffers.

Whether the system grants what a cast asks it for is not for the daemon to say: the answers are a
parameter, and what is assumed of them is a property of that parameter.

* `OsObject` — what a descriptor stands for.
* `SenderSystem` — the answers of the system to the calls of `prepare_srtp_sender`.
* `bindUdp` — `bind` of a UDP socket, by these answers.
* `SenderSystem.OwnPortsOnly`, `ownPorts` — a port is refused only to a second socket of the process,
  and a system of that kind.
* `MmalBuffer` — a buffer of an encoder: the flags that are tested, and the bytes.
-/

namespace CameraDaemon

open FdTable Memory

/-- What a descriptor of the daemon stands for. -/
inductive OsObject
  /-- The listening socket of `create_server`. -/
  | listener
  /-- An accepted connection, numbered in the order of the accepts. -/
  | conn (id : ℕ)
  /-- A UDP socket and the port it is bound to, if any. -/
  | udp (port : Option UInt16)
  /-- Anything the modelled code does not touch: the standard streams, the camera's devices. -/
  | other
  deriving DecidableEq, Repr

/-- Is some open UDP socket bound to the port? -/
def udpBound (os : FdTable OsObject) (port : UInt16) : Bool :=
  os.contains (some (.udp (some port)))

/-- A socket that is not bound yet takes no port. -/
theorem udpBound_install_none (os : FdTable OsObject) (port : UInt16) :
    udpBound (os.install (.udp none)) port = udpBound os port := by
  rw [udpBound, udpBound, Bool.eq_iff_iff, List.contains_iff_mem, List.contains_iff_mem,
    mem_install]
  simp

theorem udpBound_install (os : FdTable OsObject) (port q : UInt16) :
    udpBound (os.install (.udp (some port))) q = true ↔ udpBound os q = true ∨ q = port := by
  rw [udpBound, udpBound, List.contains_iff_mem, List.contains_iff_mem, mem_install]
  simp

/-! ### The answers of the system -/

/-- The answers of the system to the calls of `prepare_srtp_sender`, by the number of sessions
prepared before.  They may depend on anything outside of the process: other processes, privileges,
the limits of the descriptors and of the memory. -/
structure SenderSystem where
  /-- Does `socket` give a descriptor? -/
  socketOk : ℕ → Bool
  /-- Does `bind` succeed for the port, with these descriptors open? -/
  bindOk : ℕ → FdTable OsObject → UInt16 → Bool
  /-- The port of a socket that is bound to port 0. -/
  freePort : ℕ → UInt16
  /-- Is there memory for the context of `srtp_create`? -/
  contextOk : ℕ → Bool
  /-- Is there memory for its stream? -/
  streamOk : ℕ → Bool

/-- The port that a socket has after `bind` has succeeded. -/
def SenderSystem.localPort (sys : SenderSystem) (n : ℕ) (port : UInt16) : UInt16 :=
  if port = 0 then sys.freePort n else port

/-- `bind` of the UDP socket `fd` to a port; `none` when it fails, as it does for the descriptor
`-1` of a socket that there is not. -/
def bindUdp (sys : SenderSystem) (n : ℕ) (os : FdTable OsObject) (fd : ℤ) (port : UInt16) :
    Option (FdTable OsObject) :=
  if fd < 0 then none
  else if sys.bindOk n os port then
    some (os.assign fd.toNat (.udp (some (sys.localPort n port))))
  else none

/-- Binding a socket that was just opened puts a bound socket into the table, or fails. -/
theorem bindUdp_install (sys : SenderSystem) (n : ℕ) (os : FdTable OsObject) (port : UInt16) :
    bindUdp sys n (os.install (.udp none)) os.lowestUnused port =
      if sys.bindOk n (os.install (.udp none)) port then
        some (os.install (.udp (some (sys.localPort n port))))
      else none := by
  rw [bindUdp, if_neg (Int.not_lt.mpr (Int.natCast_nonneg _)), Int.toNat_natCast, assign_install]

/-- There are sockets and memory, and `bind` to a port other than 0 fails exactly when another open
socket of the process is bound to the port. -/
structure SenderSystem.OwnPortsOnly (sys : SenderSystem) : Prop where
  socket_ok : ∀ n, sys.socketOk n = true
  bind_iff : ∀ n os port, port ≠ 0 → (sys.bindOk n os port = true ↔ udpBound os port = false)
  context_ok : ∀ n, sys.contextOk n = true
  stream_ok : ∀ n, sys.streamOk n = true

/-- A system that refuses nothing but a port of the process, and takes free ports from 49152 on. -/
def ownPorts : SenderSystem :=
  { socketOk := fun _ => true
    bindOk := fun _ os port => !udpBound os port
    freePort := fun n => UInt16.ofNat (49152 + n)
    contextOk := fun _ => true
    streamOk := fun _ => true }

theorem ownPorts_ownPortsOnly : ownPorts.OwnPortsOnly :=
  { socket_ok := fun _ => rfl
    bind_iff := fun _ os port _ => by simp [ownPorts]
    context_ok := fun _ => rfl
    stream_ok := fun _ => rfl }

/-! ### Memory and buffers -/

/-- A block of bytes: the memory behind a pointer, and a length. -/
structure Block where
  data : ℕ → UInt8
  length : ℕ

/-- The null pointer with the length zero. -/
def Block.null : Block := { data := fun _ => 0, length := 0 }

/-- The bytes of the block. -/
def Block.bytes (b : Block) : List UInt8 := slice b.data 0 b.length

/-- The block of the given bytes. -/
def Block.ofList (bs : List UInt8) : Block := { data := fun i => bs.getD i 0, length := bs.length }

/-- `memcpy` of a block into fresh memory. -/
def Block.copy (b : Block) (fresh : ℕ → UInt8) : Block :=
  { data := store fresh 0 b.bytes, length := b.length }

@[simp] theorem Block.bytes_copy (b : Block) (fresh : ℕ → UInt8) :
    (b.copy fresh).bytes = b.bytes := by
  have h := slice_store fresh 0 b.bytes
  rwa [show b.bytes.length = b.length from length_slice _ _ _] at h

/-- `MMAL_BUFFER_HEADER_T`: the flags that the callbacks test, and the payload. -/
structure MmalBuffer where
  config : Bool
  codecSideInfo : Bool
  keyframe : Bool
  frameEnd : Bool
  payload : Block

end CameraDaemon
