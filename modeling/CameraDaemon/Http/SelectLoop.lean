import CameraDaemon.Http.Handlers
import CameraDaemon.Lib.Run
import Mathlib.Data.Finset.Basic

/-!
# The select loop

`create_server` waits in `select` and then scans the numbers from zero to `FD_SETSIZE`, in ascending
order, against what `select` has reported: the listening socket is accepted from, every other number
is given to `handle_request` and closed when that fails.  Within a pass numbers are closed and issued
again, to connections and to the sockets that the handlers open, while the set of reported numbers
stays as it was.

A number that is still to be scanned was in use when `select` returned.  Only scanned numbers are
closed, and only unused numbers are issued, so the number keeps standing for the same connection
until the scan reaches it.

The loop is the same for all handlers that open descriptors and close none (`Handlers`); those of the
daemon are such handlers.

## Main definitions

* `Handlers` — a process with its descriptors, and what it does for a readable connection.
* `SelectLoop`, `createServerStep` — the loop, one scanned number at a time.
* `daemonHandlers` — the handlers of the daemon.
* `Tracks` — the descriptors are what the history of accepts and closes says.
* `SelectRight` — the loop has been right so far.

## Main results

* `handleRequest_grows` — **`handle_request` opens UDP sockets and closes nothing.**
* `Tracks.accept`, `Tracks.grows`, `Tracks.close` — what the loop does keeps track.
* `loopInv_step` — the invariant of the loop.
* `createServer_selectRight` — **the loop never serves a recycled descriptor.**
-/

namespace CameraDaemon

open FdTable Transition

/-! ### Handlers -/

/-- Is the object an accepted connection? -/
def OsObject.isConn : OsObject → Bool
  | .conn _ => true
  | _ => false

/-- A process with its descriptors, and what it does for a connection that is readable.  The handler
is given what the connection delivers; it may end the process (`none`), and says whether the
connection is to be kept.  It may open descriptors, and closes none. -/
structure Handlers (δ ι : Type*) where
  os : δ → FdTable OsObject
  setOs : FdTable OsObject → δ → δ
  os_setOs : ∀ t d, os (setOs t d) = t
  handleRequest : ℕ → ι → δ → Option (Bool × δ)
  grows : ∀ {fd i d ok d'}, handleRequest fd i d = some (ok, d') →
    Grows (fun o => o.isConn = false) (os d) (os d')

/-! ### The loop -/

/-- `FD_SETSIZE`. -/
def fdSetSize : ℕ := 1024

/-- A pass over the numbers: `read_fd_set`, the next number to be scanned, and the descriptors at the
moment when `select` returned. -/
structure SelectPass where
  readFdSet : Finset ℕ
  i : ℕ
  reported : FdTable OsObject

/-- A call of `handle_request`: its argument, what that number stood for when `select` returned, and
what it stands for at the call. -/
structure HandledFd where
  fd : ℕ
  reported : Option OsObject
  served : Option OsObject
  deriving DecidableEq, Repr

/-- The loop of `create_server`, and what is recorded of its run. -/
structure SelectLoop (δ : Type*) where
  process : δ
  sock : ℕ
  activeFdSet : Finset ℕ
  /-- The pass that is going on; `none` in `select`. -/
  pass : Option SelectPass
  /-- The numbers that `accept` has returned, in order. -/
  accepts : List ℕ
  /-- What the numbers given to `close` stood for, latest first. -/
  closes : List (Option OsObject)
  /-- The calls of `handle_request`, latest first. -/
  handled : List HandledFd

/-- The choices of a run. -/
inductive SelectLabel (ι : Type*)
  /-- `select` reports these numbers. -/
  | select (ready : Finset ℕ)
  /-- The next number is scanned; a connection that is served delivers this. -/
  | scan (input : ι)

section Loop

variable {δ ι : Type*} (H : Handlers δ ι)

/-- The descriptors of the process. -/
def SelectLoop.os (s : SelectLoop δ) : FdTable OsObject := H.os s.process

/-- A readable listening socket: `accept`, which is given the lowest unused number, and `FD_SET`,
which needs one below `FD_SETSIZE`. -/
def acceptConn (s : SelectLoop δ) : Option (SelectLoop δ) :=
  let new := (s.os H).lowestUnused
  if new < fdSetSize then
    some { s with
      process := H.setOs ((s.os H).install (.conn s.accepts.length)) s.process
      activeFdSet := insert new s.activeFdSet
      accepts := s.accepts ++ [new] }
  else none

/-- `close(fd)` and `FD_CLR(fd, &active_fd_set)`. -/
def closeConn (fd : ℕ) (s : SelectLoop δ) : SelectLoop δ :=
  { s with
    process := H.setOs ((s.os H).close fd) s.process
    activeFdSet := s.activeFdSet.erase fd
    closes := (s.os H).lookup fd :: s.closes }

/-- A readable connection: `handle_request`, and the close when that fails. -/
def serveConn (p : SelectPass) (input : ι) (s : SelectLoop δ) : Option (SelectLoop δ) :=
  match H.handleRequest p.i input s.process with
  | none => none
  | some (ok, process) =>
    let call : HandledFd :=
      { fd := p.i, reported := p.reported.lookup p.i, served := (s.os H).lookup p.i }
    let s := { s with process := process, handled := call :: s.handled }
    some (if ok then s else closeConn H p.i s)

/-- One turn of the `for` loop. -/
def scanFd (p : SelectPass) (input : ι) (s : SelectLoop δ) : Option (SelectLoop δ) :=
  if p.i ∈ p.readFdSet then
    if p.i = s.sock then acceptConn H s else serveConn H p input s
  else some s

/-- One step of `create_server`. -/
def createServerStep (s : SelectLoop δ) : SelectLabel ι → Option (SelectLoop δ)
  | .select ready =>
    match s.pass with
    | some _ => none
    | none =>
      if ready ⊆ s.activeFdSet then
        some { s with pass := some { readFdSet := ready, i := 0, reported := s.os H } }
      else none
  | .scan input =>
    match s.pass with
    | none => none
    | some p =>
      if p.i < fdSetSize then
        (scanFd H p input s).map fun s => { s with pass := some { p with i := p.i + 1 } }
      else some { s with pass := none }

/-- `create_server` before its loop: the listening socket is opened. -/
def createServerInit (process : δ) : SelectLoop δ :=
  { process := H.setOs ((H.os process).install .listener) process
    sock := (H.os process).lowestUnused
    activeFdSet := {(H.os process).lowestUnused}
    pass := none
    accepts := []
    closes := []
    handled := [] }

/-- The loop has been right so far: in `select` the active numbers are the listening socket and the
connections that were accepted and not closed; only connections were closed, each at most once; and
`handle_request` was called on the connections that `select` had reported. -/
structure SelectRight (s : SelectLoop δ) : Prop where
  active : s.pass = none → ∀ fd, fd ∈ s.activeFdSet ↔
    fd = s.sock ∨ ∃ id, s.accepts[id]? = some fd ∧ some (.conn id) ∉ s.closes
  closes_conn : ∀ o ∈ s.closes, ∃ id < s.accepts.length, o = some (.conn id)
  closes_once : s.closes.Nodup
  handled : ∀ c ∈ s.handled, ∃ id, c.reported = some (.conn id) ∧ c.served = some (.conn id)

end Loop

/-! ### The handlers of the daemon -/

section Daemon

variable (env : ServerEnv)

/-- A session opens at most one UDP socket. -/
theorem startSession_grows (args : CastArgs) (d : Daemon) :
    Grows (fun o => o.isConn = false) d.world.os (startSession env args d).world.os := by
  rw [startSession]
  cases hprep : prepareSrtpSender env.system args d.world with
  | error e => exact .refl
  | ok w =>
    cases (prepareSrtpSender_eq_ok hprep).2
    simp only [activate]
    split
    · exact Grows.refl.install rfl
    · exact Grows.refl.install rfl

theorem serverOnUrl_os (fd : ℕ) (method : HttpMethod) (data : List UInt8) (d : Daemon) :
    (serverOnUrl env fd method data d).2.world.os = d.world.os := by
  have hstore : ∀ d', storeUrl env data d = some d' → d'.world = d.world := by
    intro d' h
    rw [storeUrl] at h
    split at h
    · split at h
      · cases h
        rfl
      · cases h
    · cases h
      rfl
  rw [serverOnUrl]
  split
  · rfl
  · next d' hd' =>
    rw [← hstore d' hd']
    split
    · rw [(getAction_keeps fd data d').1]
    · rfl

theorem serverOnBody_grows (fd : ℕ) (method : HttpMethod) (data : List UInt8) (d : Daemon) :
    Grows (fun o => o.isConn = false) d.world.os (serverOnBody env fd method data d).world.os := by
  rw [serverOnBody]
  split
  · split
    · simp only []
      split
      · exact .refl
      · next args hargs =>
        exact startSession_grows env args { d with calls := .srtpCastTo fd data :: d.calls }
    · exact .refl
  · exact .refl

theorem runEvents_grows (fd : ℕ) : ∀ (events : List ParserEvent) (d : Daemon),
    Grows (fun o => o.isConn = false) d.world.os (runEvents env fd events d).world.os := by
  intro events
  induction events with
  | nil => exact fun d => .refl
  | cons e events ih =>
    intro d
    cases e with
    | url method data =>
      have hos := serverOnUrl_os env fd method data d
      simp only [runEvents]
      rw [← hos]
      split
      · exact ih _
      · exact .refl
    | body method data =>
      have hgrows := serverOnBody_grows env fd method data d
      simp only [runEvents]
      split
      · exact hgrows
      split
      · exact hgrows.trans (ih _)
      · exact hgrows

/-- **`handle_request` opens UDP sockets and closes nothing.** -/
theorem handleRequest_grows (fd : ℕ) (data : List UInt8) (d : Daemon) :
    Grows (fun o => o.isConn = false) d.world.os (handleRequest env fd data d).world.os := by
  rw [handleRequest]
  split
  · exact .refl
  · exact runEvents_grows env fd _ d

/-- The daemon, as the loop sees it.  A connection delivers the bytes that the parser is given, or
the end of file or an error, for which `handle_request` returns `-1`. -/
def daemonHandlers : Handlers Daemon (Option (List UInt8)) where
  os := fun d => d.world.os
  setOs := fun t d => { d with world := { d.world with os := t } }
  os_setOs := fun _ _ => rfl
  handleRequest := fun fd input d =>
    match input with
    | none => some (false, d)
    | some data =>
      let d := CameraDaemon.handleRequest env fd data d
      if d.dead.isSome then none else some (true, d)
  grows := by
    intro fd input d ok d' h
    cases input with
    | none =>
      cases h
      exact .refl
    | some data =>
      simp only at h
      split at h
      · cases h
      · cases h
        exact handleRequest_grows env fd data d

end Daemon

/-! ### Keeping track -/

/-- The descriptors are what the history of accepts and closes says: the listening socket is open, a
number stands for a connection exactly when `accept` returned it for that connection and nobody has
closed it since, and the active numbers are those. -/
structure Tracks (os : FdTable OsObject) (sock : ℕ) (activeFdSet : Finset ℕ) (accepts : List ℕ)
    (closes : List (Option OsObject)) : Prop where
  listener : os.lookup sock = some .listener
  conn : ∀ fd id, os.lookup fd = some (.conn id) ↔
    accepts[id]? = some fd ∧ some (.conn id) ∉ closes
  active : ∀ fd, fd ∈ activeFdSet ↔ fd = sock ∨ ∃ id, os.lookup fd = some (.conn id)
  closes_conn : ∀ o ∈ closes, ∃ id < accepts.length, o = some (.conn id)
  closes_once : closes.Nodup

/-- A number that is active is in use. -/
def InUse (os : FdTable OsObject) (sock fd : ℕ) : Prop :=
  fd = sock ∨ ∃ id, os.lookup fd = some (.conn id)

section Tracks

variable {os os' : FdTable OsObject} {sock : ℕ} {activeFdSet : Finset ℕ} {accepts : List ℕ}
  {closes : List (Option OsObject)}

theorem Tracks.lookup_ne_none (h : Tracks os sock activeFdSet accepts closes) {fd : ℕ}
    (hfd : InUse os sock fd) : os.lookup fd ≠ none := by
  rcases hfd with rfl | ⟨id, hid⟩
  · rw [h.listener]
    exact Option.some_ne_none _
  · rw [hid]
    exact Option.some_ne_none _

/-- The number that `accept` is given is not in use. -/
theorem Tracks.ne_lowestUnused (h : Tracks os sock activeFdSet accepts closes) {fd : ℕ}
    (hfd : InUse os sock fd) : fd ≠ os.lowestUnused := by
  rintro rfl
  exact h.lookup_ne_none hfd (lookup_lowestUnused os)

/-- **An accept keeps track.** -/
theorem Tracks.accept (h : Tracks os sock activeFdSet accepts closes) :
    Tracks (os.install (.conn accepts.length)) sock (insert os.lowestUnused activeFdSet)
      (accepts ++ [os.lowestUnused]) closes := by
  have hfresh : some (OsObject.conn accepts.length) ∉ closes := by
    intro hmem
    obtain ⟨id, hlt, hid⟩ := h.closes_conn _ hmem
    cases hid
    exact Nat.lt_irrefl _ hlt
  have hconn : ∀ fd id, (os.install (.conn accepts.length)).lookup fd = some (.conn id) ↔
      (accepts ++ [os.lowestUnused])[id]? = some fd ∧ some (.conn id) ∉ closes := by
    intro fd id
    by_cases hfd : fd = os.lowestUnused
    · -- the new connection, and no other, has the new number
      subst hfd
      rw [lookup_install_self]
      constructor
      · rintro ⟨⟩
        exact ⟨List.getElem?_concat_length, hfresh⟩
      · rintro ⟨hid, hopen⟩
        rcases Nat.lt_or_ge id accepts.length with hlt | hge
        · rw [List.getElem?_append_left hlt] at hid
          have hold := (h.conn _ id).mpr ⟨hid, hopen⟩
          rw [lookup_lowestUnused] at hold
          cases hold
        · have hlt' := (List.getElem?_eq_some_iff.mp hid).1
          rw [List.length_append, List.length_singleton] at hlt'
          rw [show id = accepts.length by omega]
    · rw [lookup_install_of_ne os _ hfd, h.conn fd id]
      refine and_congr_left fun _ => ?_
      rcases Nat.lt_or_ge id accepts.length with hlt | hge
      · rw [List.getElem?_append_left hlt]
      · rw [List.getElem?_append_right hge, List.getElem?_eq_none hge]
        constructor
        · nofun
        · intro hid
          rw [List.getElem?_singleton] at hid
          split at hid
          · cases hid
            exact absurd rfl hfd
          · cases hid
  refine ⟨?_, hconn, ?_, ?_, h.closes_once⟩
  · rw [lookup_install_of_ne os _ (h.ne_lowestUnused (Or.inl rfl)), h.listener]
  · intro fd
    rw [Finset.mem_insert, h.active]
    by_cases hfd : fd = os.lowestUnused
    · subst hfd
      exact iff_of_true (Or.inl rfl) (Or.inr ⟨_, lookup_install_self os _⟩)
    · rw [lookup_install_of_ne os _ hfd]
      exact or_iff_right hfd
  · intro o ho
    obtain ⟨id, hlt, hid⟩ := h.closes_conn o ho
    refine ⟨id, ?_, hid⟩
    rw [List.length_append]
    omega

/-- **Descriptors that handlers open keep track.** -/
theorem Tracks.grows (h : Tracks os sock activeFdSet accepts closes)
    (hgrows : Grows (fun o => o.isConn = false) os os') :
    Tracks os' sock activeFdSet accepts closes := by
  have hsame : ∀ fd id, os'.lookup fd = some (.conn id) ↔ os.lookup fd = some (.conn id) :=
    fun fd id => hgrows.lookup_iff nofun
  refine ⟨hgrows.lookup_eq h.listener, fun fd id => ?_, fun fd => ?_, h.closes_conn,
    h.closes_once⟩
  · rw [hsame, h.conn]
  · rw [h.active]
    simp only [hsame]

/-- **The close of a connection keeps track.** -/
theorem Tracks.close (h : Tracks os sock activeFdSet accepts closes) {fd id : ℕ}
    (hfd : os.lookup fd = some (.conn id)) :
    Tracks (os.close fd) sock (activeFdSet.erase fd) accepts (os.lookup fd :: closes) := by
  obtain ⟨hid, hopen⟩ := (h.conn fd id).mp hfd
  have hsock : sock ≠ fd := by
    rintro rfl
    rw [h.listener] at hfd
    cases hfd
  have hconn : ∀ fd' id', (os.close fd).lookup fd' = some (.conn id') ↔
      accepts[id']? = some fd' ∧ some (.conn id') ∉ os.lookup fd :: closes := by
    intro fd' id'
    rw [hfd, List.mem_cons, not_or, and_left_comm, ← h.conn fd' id', Option.some.injEq,
      OsObject.conn.injEq]
    by_cases hsame : fd' = fd
    · subst hsame
      rw [lookup_close_self]
      refine iff_of_false nofun ?_
      rintro ⟨hne, hlookup⟩
      rw [hfd] at hlookup
      cases hlookup
      exact hne rfl
    · rw [lookup_close_of_ne os hsame, iff_and_self]
      -- one connection has one number
      rintro hlookup rfl
      have hid' := ((h.conn fd' id').mp hlookup).1
      rw [hid] at hid'
      cases hid'
      exact hsame rfl
  refine ⟨?_, hconn, ?_, ?_, ?_⟩
  · rw [lookup_close_of_ne os hsock, h.listener]
  · intro fd'
    rw [Finset.mem_erase, h.active]
    by_cases hsame : fd' = fd
    · subst hsame
      rw [lookup_close_self]
      refine iff_of_false (fun hmem => hmem.1 rfl) ?_
      rintro (hsock' | ⟨id', hnone⟩)
      · exact hsock hsock'.symm
      · cases hnone
    · rw [lookup_close_of_ne os hsame]
      exact and_iff_right hsame
  · intro o ho
    rcases List.mem_cons.mp ho with rfl | hold
    · exact ⟨id, (List.getElem?_eq_some_iff.mp hid).1, hfd⟩
    · exact h.closes_conn o hold
  · refine List.nodup_cons.mpr ⟨?_, h.closes_once⟩
    rw [hfd]
    exact hopen

end Tracks

/-! ### The invariant -/

/-- The numbers that are still to be scanned and were reported stand for what they stood for when
`select` returned. -/
def PassRight (os : FdTable OsObject) (sock : ℕ) (p : SelectPass) : Prop :=
  ∀ fd ∈ p.readFdSet, p.i ≤ fd → InUse os sock fd ∧ os.lookup fd = p.reported.lookup fd

/-- The scan moves on, and the numbers behind the scanned one that are in use are left alone. -/
theorem PassRight.next {os os' : FdTable OsObject} {sock : ℕ} {p : SelectPass}
    (h : PassRight os sock p)
    (hkeep : ∀ fd, p.i < fd → InUse os sock fd → os'.lookup fd = os.lookup fd) :
    PassRight os' sock { p with i := p.i + 1 } := by
  intro fd hread hle
  obtain ⟨huse, hsame⟩ := h fd hread (Nat.le_of_succ_le hle)
  have hlookup := hkeep fd hle huse
  refine ⟨?_, hlookup.trans hsame⟩
  rcases huse with rfl | ⟨id, hid⟩
  · exact Or.inl rfl
  · exact Or.inr ⟨id, hlookup.trans hid⟩

section Invariant

variable {δ ι : Type*} {H : Handlers δ ι} {s s' : SelectLoop δ} {p : SelectPass} {input : ι}

/-- The invariant of the loop. -/
structure LoopInv (H : Handlers δ ι) (s : SelectLoop δ) : Prop where
  tracks : Tracks (s.os H) s.sock s.activeFdSet s.accepts s.closes
  pass : ∀ p, s.pass = some p → PassRight (s.os H) s.sock p
  handled : ∀ c ∈ s.handled, ∃ id, c.reported = some (.conn id) ∧ c.served = some (.conn id)

/-- The invariant once the number of the pass has been scanned, and before the pass moves on. -/
structure Scanned (H : Handlers δ ι) (p : SelectPass) (s : SelectLoop δ) : Prop where
  tracks : Tracks (s.os H) s.sock s.activeFdSet s.accepts s.closes
  pass : PassRight (s.os H) s.sock { p with i := p.i + 1 }
  handled : ∀ c ∈ s.handled, ∃ id, c.reported = some (.conn id) ∧ c.served = some (.conn id)

theorem scanned_accept (h : LoopInv H s) (hp : s.pass = some p)
    (hs : acceptConn H s = some s') : Scanned H p s' := by
  simp only [acceptConn] at hs
  split at hs
  · cases hs
    refine ⟨?_, ?_, h.handled⟩
    · simp only [SelectLoop.os, H.os_setOs]
      exact h.tracks.accept
    · simp only [SelectLoop.os, H.os_setOs]
      refine (h.pass p hp).next fun fd _ huse => ?_
      exact lookup_install_of_ne _ _ (h.tracks.ne_lowestUnused huse)
  · cases hs

/-- A connection is served that was reported, whatever has been closed and issued before it. -/
theorem scanned_serve (h : LoopInv H s) (hp : s.pass = some p) (hread : p.i ∈ p.readFdSet)
    (hne : p.i ≠ s.sock) (hs : serveConn H p input s = some s') : Scanned H p s' := by
  obtain ⟨huse, hsame⟩ := h.pass p hp p.i hread (Nat.le_refl _)
  obtain ⟨id, hid⟩ := huse.resolve_left hne
  rw [serveConn] at hs
  split at hs
  · cases hs
  · next ok process hcall =>
    have hgrows := H.grows hcall
    have htracks := h.tracks.grows hgrows
    have hkeep : ∀ fd, InUse (s.os H) s.sock fd →
        (H.os process).lookup fd = (s.os H).lookup fd := by
      intro fd huse
      obtain ⟨c, hc⟩ := Option.ne_none_iff_exists'.mp (h.tracks.lookup_ne_none huse)
      rw [hc]
      exact hgrows.lookup_eq hc
    have hhandled : ∀ c ∈
        ({ fd := p.i, reported := p.reported.lookup p.i, served := (s.os H).lookup p.i } ::
          s.handled : List HandledFd),
        ∃ id, c.reported = some (.conn id) ∧ c.served = some (.conn id) :=
      List.forall_mem_cons.mpr ⟨⟨id, hsame ▸ hid, hid⟩, h.handled⟩
    cases ok with
    | true =>
      cases hs
      exact ⟨htracks, (h.pass p hp).next fun fd _ huse => hkeep fd huse, hhandled⟩
    | false =>
      simp only [Bool.false_eq_true, if_false] at hs
      cases hs
      have hconn : (H.os process).lookup p.i = some (.conn id) := by
        rw [hkeep p.i (Or.inr ⟨id, hid⟩), hid]
      refine ⟨?_, ?_, hhandled⟩
      · simp only [closeConn, SelectLoop.os, H.os_setOs]
        exact htracks.close hconn
      · simp only [closeConn, SelectLoop.os, H.os_setOs]
        refine (h.pass p hp).next fun fd hlt huse => ?_
        rw [lookup_close_of_ne _ (Nat.ne_of_gt hlt)]
        exact hkeep fd huse

theorem scanned_scanFd (h : LoopInv H s) (hp : s.pass = some p)
    (hs : scanFd H p input s = some s') : Scanned H p s' := by
  rw [scanFd] at hs
  split at hs
  · next hread =>
    split at hs
    · exact scanned_accept h hp hs
    · next hne => exact scanned_serve h hp hread hne hs
  · cases hs
    exact ⟨h.tracks, (h.pass p hp).next fun _ _ _ => rfl, h.handled⟩

/-- **A step of the loop keeps the invariant.** -/
theorem loopInv_step {l : SelectLabel ι} (h : LoopInv H s)
    (hs : createServerStep H s l = some s') : LoopInv H s' := by
  cases l with
  | select ready =>
    rw [createServerStep] at hs
    split at hs
    · cases hs
    · split at hs
      · next hready =>
        cases hs
        refine ⟨h.tracks, ?_, h.handled⟩
        rintro _ ⟨⟩ fd hfd -
        exact ⟨(h.tracks.active fd).mp (hready hfd), rfl⟩
      · cases hs
  | scan input =>
    rw [createServerStep] at hs
    split at hs
    · cases hs
    · next p hp =>
      split at hs
      · obtain ⟨t, ht, rfl⟩ := Option.map_eq_some_iff.mp hs
        have hscan := scanned_scanFd h hp ht
        refine ⟨hscan.tracks, ?_, hscan.handled⟩
        rintro _ ⟨⟩
        exact hscan.pass
      · -- the end of the pass
        cases hs
        exact ⟨h.tracks, nofun, h.handled⟩

/-- The loop starts with the listening socket. -/
theorem loopInv_init {process : δ}
    (h : ∀ fd id, (H.os process).lookup fd ≠ some (.conn id)) :
    LoopInv H (createServerInit H process) := by
  have hos : (createServerInit H process).os H = (H.os process).install .listener :=
    H.os_setOs _ _
  have hnone : ∀ fd id, ((H.os process).install .listener).lookup fd ≠ some (.conn id) := by
    intro fd id hfd
    by_cases hnew : fd = (H.os process).lowestUnused
    · subst hnew
      rw [lookup_install_self] at hfd
      cases hfd
    · rw [lookup_install_of_ne _ _ hnew] at hfd
      exact h fd id hfd
  refine ⟨?_, nofun, nofun⟩
  rw [hos]
  refine ⟨lookup_install_self _ _, fun fd id => ?_, fun fd => ?_, nofun, List.nodup_nil⟩
  · exact iff_of_false (hnone fd id) nofun
  · rw [or_iff_left (fun ⟨id, hid⟩ => hnone fd id hid)]
    exact Finset.mem_singleton

/-- **The loop never serves a recycled descriptor**: in every run of `create_server`, whatever the
handlers open, the active numbers are the listening socket and the connections that are open, no
connection is closed twice, and `handle_request` is called on the connection that `select` has
reported. -/
theorem createServer_selectRight (H : Handlers δ ι) {process : δ}
    (h : ∀ fd id, (H.os process).lookup fd ≠ some (.conn id)) {labels : List (SelectLabel ι)}
    (hrun : exec (createServerStep H) (createServerInit H process) labels = some s) :
    SelectRight s := by
  have hinv : LoopInv H s :=
    exec_invariant (loopInv_init h) (fun _ _ _ hv hstep => loopInv_step hv hstep) hrun
  refine ⟨fun _ fd => ?_, hinv.tracks.closes_conn, hinv.tracks.closes_once, hinv.handled⟩
  rw [hinv.tracks.active]
  simp only [hinv.tracks.conn]

end Invariant

/-- Connection `0` ends in the pass in which connection `1` is accepted; in the next one its number
is given to connection `2`, and connection `1` is served. -/
def recycleRun : List (SelectLabel (Option (List UInt8))) :=
  let scans (n : ℕ) : List (SelectLabel (Option (List UInt8))) := List.replicate n (.scan none)
  .select {3} :: scans (fdSetSize + 1) ++ .select {3, 4} :: scans (fdSetSize + 1) ++
    .select {3, 5} :: scans 6

theorem createServer_selectRight_recycled :
    ∃ s, exec (createServerStep (daemonHandlers sampleEnv))
        (createServerInit (daemonHandlers sampleEnv)
          (daemonInit [some .other, some .other, some .other])) recycleRun = some s ∧
      s.accepts = [4, 5, 4] ∧ s.handled.length = 2 ∧ SelectRight s := by
  have hnone : ∀ fd id, ((daemonHandlers sampleEnv).os
      (daemonInit [some .other, some .other, some .other])).lookup fd ≠ some (.conn id) := by
    intro fd id hfd
    have hmem := (mem_iff_lookup _ _).mpr ⟨fd, hfd⟩
    simp [daemonHandlers, daemonInit, senderStart] at hmem
  have hrun : (exec (createServerStep (daemonHandlers sampleEnv))
      (createServerInit (daemonHandlers sampleEnv)
        (daemonInit [some .other, some .other, some .other])) recycleRun).any
      (fun s => decide (s.accepts = [4, 5, 4] ∧ s.handled.length = 2)) = true := by
    decide +kernel
  obtain ⟨s, hs, hp⟩ := (Option.any_eq_true _ _).mp hrun
  obtain ⟨haccepts, hhandled⟩ := of_decide_eq_true hp
  exact ⟨s, hs, haccepts, hhandled, createServer_selectRight _ hnone hs⟩

end CameraDaemon
