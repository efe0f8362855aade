import CameraDaemon.LiveStream

/-!
# The live and the SRTP output do not interfere

One callback serves both outputs, with two gates, a branch that ends the live stream in the middle
and two jumps.  Here a run is compared with the run in which one of the outputs is not asked for at
all.  Without the live requests, `srtp_sender_callback` is called with the same blocks, and its
context is the same; without the casts and the stops, the same bytes are written to the same live
connections.  In both cases the second run exists: it does not end the process where the first one
goes on.

## Main definitions

* `eraseLive`, `eraseCasts` — what is left of an event.
* `SameSender` — two cameras that the receiver cannot tell apart.

## Main results

* `SameSender.step` — the receiver does not see the live client.
* `idle_step` — the live clients do not see the receiver.
* `outputs_independent` — **neither output depends on the events of the other.**
-/

namespace CameraDaemon

open CString Transition

/-- The event without the live clients: no requests, and no outcomes of writes. -/
def eraseLive : CameraEvent → Option CameraEvent
  | .live _ => none
  | .buffer b _ => some (.buffer b true)
  | .cast args => some (.cast args)
  | .stop fd => some (.stop fd)

/-- The event without the receiver: no casts and no stops. -/
def eraseCasts : CameraEvent → Option CameraEvent
  | .cast _ | .stop _ => none
  | .live fd => some (.live fd)
  | .buffer b writeOk => some (.buffer b writeOk)

/-! ### Without the live clients -/

/-- The cameras agree on everything but the live clients. -/
structure SameSender (c c' : Camera) : Prop where
  streamHeader : c'.daemon.streamHeader = c.daemon.streamHeader
  active : c'.daemon.haveActiveSrtpReceiver = c.daemon.haveActiveSrtpReceiver
  world : c'.daemon.world = c.daemon.world
  dead : c'.daemon.dead = c.daemon.dead
  gate : c'.srtpFrameStart = c.srtpFrameStart
  sent : c'.sent = c.sent

section Sender

variable {c c' d : Camera}

theorem SameSender.refl (c : Camera) : SameSender c c := ⟨rfl, rfl, rfl, rfl, rfl, rfl⟩

theorem SameSender.symm (h : SameSender c c') : SameSender c' c :=
  ⟨h.streamHeader.symm, h.active.symm, h.world.symm, h.dead.symm, h.gate.symm, h.sent.symm⟩

theorem SameSender.trans (h : SameSender c c') (h' : SameSender c' d) : SameSender c d :=
  ⟨h'.streamHeader.trans h.streamHeader, h'.active.trans h.active, h'.world.trans h.world,
    h'.dead.trans h.dead, h'.gate.trans h.gate, h'.sent.trans h.sent⟩

theorem sameSender_live (fd : ℕ) (c : Camera) :
    SameSender c { c with daemon := getAction fd (ascii "/live") c.daemon } := by
  rw [getAction_live]
  exact ⟨rfl, rfl, rfl, rfl, rfl, rfl⟩

/-- A write, successful or not, is nothing to the receiver. -/
theorem sameSender_liveBranch (b : MmalBuffer) (writeOk : Bool) (c : Camera) :
    SameSender c (liveBranch b writeOk c) := by
  unfold liveBranch
  split
  · split
    · split
      · exact ⟨rfl, rfl, rfl, rfl, rfl, rfl⟩
      · exact ⟨rfl, rfl, rfl, rfl, rfl, rfl⟩
    · exact SameSender.refl c
  · exact SameSender.refl c

theorem SameSender.giveBlock {crypto : SrtpCrypto} {block : Block} (h : SameSender c c')
    (hs : giveBlock crypto block c = some d) :
    ∃ d', CameraDaemon.giveBlock crypto block c' = some d' ∧ SameSender d d' := by
  simp only [CameraDaemon.giveBlock] at hs ⊢
  rw [h.world]
  split at hs
  · next hret =>
    cases hs
    rw [if_pos hret]
    refine ⟨_, rfl, h.streamHeader, h.active, rfl, h.dead, h.gate, ?_⟩
    rw [h.sent]
  · cases hs

theorem SameSender.srtpBranch {crypto : SrtpCrypto} {b : MmalBuffer} (h : SameSender c c')
    (hs : srtpBranch crypto b c = some d) :
    ∃ d', CameraDaemon.srtpBranch crypto b c' = some d' ∧ SameSender d d' := by
  simp only [CameraDaemon.srtpBranch] at hs ⊢
  rw [h.active, h.gate]
  split at hs
  · next hactive =>
    rw [if_pos hactive]
    split at hs
    · next hgate =>
      rw [if_pos hgate]
      have hopen : SameSender { c with srtpFrameStart := true }
          { c' with srtpFrameStart := true } :=
        ⟨h.streamHeader, h.active, h.world, h.dead, rfl, h.sent⟩
      exact hopen.giveBlock hs
    · next hgate =>
      rw [if_neg hgate]
      cases hs
      exact ⟨c', rfl, h⟩
  · next hactive =>
    rw [if_neg hactive]
    cases hs
    exact ⟨_, rfl, h.streamHeader, h.active, h.world, h.dead, rfl, h.sent⟩

theorem SameSender.saveHeader {env : ServerEnv} {b : MmalBuffer} (h : SameSender c c')
    (hs : saveHeader env b c = some d) :
    ∃ d', CameraDaemon.saveHeader env b c' = some d' ∧ SameSender d d' := by
  unfold CameraDaemon.saveHeader at hs ⊢
  rw [h.streamHeader]
  split at hs
  · cases hs
  · next hfirst =>
    cases hs
    rw [if_neg hfirst]
    exact ⟨_, rfl, rfl, h.active, h.world, h.dead, h.gate, h.sent⟩

/-- The callback, whatever becomes of the writes. -/
theorem SameSender.callback {env : ServerEnv} {b : MmalBuffer} {writeOk : Bool}
    (h : SameSender c c') (hs : videoEncoderOutputCallback env b writeOk c = some d)
    (writeOk' : Bool) :
    ∃ d', videoEncoderOutputCallback env b writeOk' c' = some d' ∧ SameSender d d' := by
  unfold videoEncoderOutputCallback at hs ⊢
  split at hs
  · next hconfig =>
    rw [if_pos hconfig]
    exact h.saveHeader hs
  · next hconfig =>
    rw [if_neg hconfig]
    split at hs
    · next hside =>
      rw [if_pos hside]
      cases hs
      exact ⟨c', rfl, h⟩
    · next hside =>
      rw [if_neg hside]
      have hlive : SameSender (liveBranch b writeOk c) (liveBranch b writeOk' c') :=
        ((sameSender_liveBranch b writeOk c).symm.trans h).trans
          (sameSender_liveBranch b writeOk' c')
      exact hlive.srtpBranch hs

/-- A cast, whoever the live client is. -/
theorem SameSender.startSession (env : ServerEnv) (args : CastArgs) (h : SameSender c c') :
    SameSender { c with daemon := startSession env args c.daemon }
      { c' with daemon := CameraDaemon.startSession env args c'.daemon } := by
  have hheader : c'.daemon.header = c.daemon.header := by
    rw [Daemon.header, Daemon.header, h.streamHeader]
  unfold CameraDaemon.startSession
  rw [h.world]
  cases prepareSrtpSender env.system args c.daemon.world with
  | error e => exact ⟨h.streamHeader, h.active, h.world, rfl, h.gate, h.sent⟩
  | ok w =>
    simp only [activate, hheader]
    split
    · exact ⟨h.streamHeader, rfl, rfl, h.dead, h.gate, h.sent⟩
    · exact ⟨h.streamHeader, h.active, rfl, rfl, h.gate, h.sent⟩

/-- **The receiver does not see the live client**: an event that is kept has the same effect. -/
theorem SameSender.step {env : ServerEnv} {e e' : CameraEvent} (h : SameSender c c')
    (hs : cameraStep env c e = some d) (he : eraseLive e = some e') :
    ∃ d', cameraStep env c' e' = some d' ∧ SameSender d d' := by
  cases e with
  | live fd => cases he
  | stop fd =>
    cases he
    cases hs
    refine ⟨_, rfl, ?_⟩
    simp only [getAction_stop]
    exact ⟨h.streamHeader, rfl, h.world, h.dead, h.gate, h.sent⟩
  | cast args =>
    cases he
    have hstart := h.startSession env args
    have hheader : c'.daemon.header = c.daemon.header := by
      rw [Daemon.header, Daemon.header, h.streamHeader]
    rw [cameraStep] at hs ⊢
    rw [show (CameraDaemon.startSession env args c'.daemon).dead =
      (CameraDaemon.startSession env args c.daemon).dead from hstart.dead]
    split at hs
    · cases hs
    · next halive =>
      cases hs
      rw [if_neg halive]
      refine ⟨_, rfl, hstart.streamHeader, hstart.active, hstart.world, hstart.dead, h.gate, ?_⟩
      show c'.sent ++ _ = c.sent ++ _
      rw [h.sent, hheader]
  | buffer b writeOk =>
    cases he
    exact h.callback hs true

end Sender

/-! ### Without the receiver -/

/-- Without a receiver the callback ends the process at a second CONFIG buffer at most. -/
theorem callback_of_idle {env : ServerEnv} {b : MmalBuffer} {writeOk : Bool} {c : Camera}
    (hidle : c.daemon.haveActiveSrtpReceiver = false)
    (hfirst : b.config = true → c.daemon.streamHeader = none) :
    ∃ c', videoEncoderOutputCallback env b writeOk c = some c' ∧
      c'.daemon.haveActiveSrtpReceiver = false := by
  unfold videoEncoderOutputCallback
  by_cases hconfig : b.config = true
  · rw [if_pos hconfig, saveHeader, hfirst hconfig]
    exact ⟨_, rfl, hidle⟩
  rw [if_neg hconfig]
  by_cases hside : b.codecSideInfo = true
  · rw [if_pos hside]
    exact ⟨c, rfl, hidle⟩
  · have hstill : (liveBranch b writeOk c).daemon.haveActiveSrtpReceiver = false := by
      rw [(sameSender_liveBranch b writeOk c).active, hidle]
    rw [if_neg hside, srtpBranch, hstill, if_neg Bool.false_ne_true]
    exact ⟨_, rfl, hstill⟩

/-- A second CONFIG buffer ends the process. -/
theorem streamHeader_of_callback {env : ServerEnv} {b : MmalBuffer} {writeOk : Bool} {c c' : Camera}
    (h : videoEncoderOutputCallback env b writeOk c = some c') (hconfig : b.config = true) :
    c.daemon.streamHeader = none := by
  rw [videoEncoderOutputCallback, if_pos hconfig, saveHeader] at h
  split at h
  · cases h
  · next hnone => exact Option.not_isSome_iff_eq_none.mp hnone

/-- **The live clients do not see the receiver**: a camera without one can follow. -/
theorem idle_step {env : ServerEnv} {s s' t : Feed} {e : CameraEvent}
    (hview : s.view = t.view) (hidle : t.camera.daemon.haveActiveSrtpReceiver = false)
    (hs : feedStep env s e = some s') (he : eraseCasts e = some e) :
    ∃ t', feedStep env t e = some t' ∧ s'.view = t'.view ∧
      t'.camera.daemon.haveActiveSrtpReceiver = false := by
  -- it is enough to make the step: the views then agree by themselves
  have hstep : ∃ c', cameraStep env t.camera e = some c' ∧
      c'.daemon.haveActiveSrtpReceiver = false := by
    cases e with
    | cast args => cases he
    | stop fd => cases he
    | live fd =>
      refine ⟨_, rfl, ?_⟩
      rw [getAction_live]
      exact hidle
    | buffer b writeOk =>
      obtain ⟨c, hc, -⟩ := Option.map_eq_some_iff.mp hs
      apply callback_of_idle hidle
      intro hconfig
      have hsaved : s.camera.daemon.streamHeader = t.camera.daemon.streamHeader :=
        congrArg LiveView.header hview
      rw [← hsaved]
      exact streamHeader_of_callback hc hconfig
  obtain ⟨c', hc', hidle'⟩ := hstep
  have ht := feedStep_of_cameraStep hc'
  refine ⟨_, ht, ?_, hidle'⟩
  rw [feedStep_view hs, feedStep_view ht, hview]

/-! ### Both outputs -/

section Outputs

variable {env : ServerEnv} {os : FdTable OsObject} {events : List CameraEvent} {last : Feed}

/-- The sender does not see the events that are erased. -/
theorem sent_without_live (hrun : exec (feedStep env) (feedInit os) events = some last) :
    ∃ last', exec (feedStep env) (feedInit os) (events.filterMap eraseLive) = some last' ∧
      SameSender last.camera last'.camera := by
  have hskip : ∀ (s t : Feed) (e : CameraEvent) (s' : Feed),
      SameSender s.camera t.camera → feedStep env s e = some s' → eraseLive e = none →
      SameSender s'.camera t.camera := by
    intro s t e s' h hs he
    obtain ⟨c, hc, rfl⟩ := Option.map_eq_some_iff.mp hs
    cases e with
    | cast args => cases he
    | stop fd => cases he
    | buffer b writeOk => cases he
    | live fd =>
      cases hc
      exact (sameSender_live fd s.camera).symm.trans h
  have hkeep : ∀ (s t : Feed) (e e' : CameraEvent) (s' : Feed),
      SameSender s.camera t.camera → feedStep env s e = some s' → eraseLive e = some e' →
      ∃ t', feedStep env t e' = some t' ∧ SameSender s'.camera t'.camera := by
    intro s t e e' s' h hs he
    obtain ⟨c, hc, rfl⟩ := Option.map_eq_some_iff.mp hs
    obtain ⟨d, hd, hsame⟩ := h.step hc he
    exact ⟨_, feedStep_of_cameraStep hd, hsame⟩
  exact exec_simulates hskip hkeep events _ _ _ (SameSender.refl _) hrun

/-- The live clients do not see the events that are erased. -/
theorem written_without_casts (hrun : exec (feedStep env) (feedInit os) events = some last) :
    ∃ last', exec (feedStep env) (feedInit os) (events.filterMap eraseCasts) = some last' ∧
      last.view = last'.view := by
  have hskip : ∀ (s t : Feed) (e : CameraEvent) (s' : Feed),
      (s.view = t.view ∧ t.camera.daemon.haveActiveSrtpReceiver = false) →
      feedStep env s e = some s' → eraseCasts e = none →
      s'.view = t.view ∧ t.camera.daemon.haveActiveSrtpReceiver = false := by
    rintro s t e s' ⟨hview, hidle⟩ hs he
    refine ⟨?_, hidle⟩
    rw [feedStep_view hs, ← hview]
    cases e with
    | cast args => rfl
    | stop fd => rfl
    | live fd => cases he
    | buffer b writeOk => cases he
  have hkeep : ∀ (s t : Feed) (e e' : CameraEvent) (s' : Feed),
      (s.view = t.view ∧ t.camera.daemon.haveActiveSrtpReceiver = false) →
      feedStep env s e = some s' → eraseCasts e = some e' →
      ∃ t', feedStep env t e' = some t' ∧
        s'.view = t'.view ∧ t'.camera.daemon.haveActiveSrtpReceiver = false := by
    rintro s t e e' s' ⟨hview, hidle⟩ hs he
    have hsame : e = e' := by
      cases e with
      | cast args => cases he
      | stop fd => cases he
      | live fd => exact Option.some.inj he
      | buffer b writeOk => exact Option.some.inj he
    subst hsame
    exact idle_step hview hidle hs he
  obtain ⟨last', hlast', hview, -⟩ := exec_simulates hskip hkeep events _ _ _ ⟨rfl, rfl⟩ hrun
  exact ⟨last', hlast', hview⟩

end Outputs

/-- **Neither output depends on the events of the other.**  Without the live requests and the
outcomes of the writes, `srtp_sender_callback` is given the same blocks and leaves the same context;
without the casts and the stops, the same writes are made on the live connections. -/
theorem outputs_independent {env : ServerEnv} {os : FdTable OsObject} {events : List CameraEvent}
    {last : Feed} (hrun : exec (feedStep env) (feedInit os) events = some last) :
    (∃ last', exec (feedStep env) (feedInit os) (events.filterMap eraseLive) = some last' ∧
        last'.camera.sent = last.camera.sent ∧
        last'.camera.daemon.world = last.camera.daemon.world) ∧
      ∃ last', exec (feedStep env) (feedInit os) (events.filterMap eraseCasts) = some last' ∧
        last'.writes = last.writes := by
  constructor
  · obtain ⟨last', hlast', hsame⟩ := sent_without_live hrun
    exact ⟨last', hlast', hsame.sent, hsame.world⟩
  · obtain ⟨last', hlast', hview⟩ := written_without_casts hrun
    exact ⟨last', hlast', (congrArg LiveView.writes hview).symm⟩

/-- A receiver and two live clients, one of which is lost. -/
def mixedEvents : List CameraEvent :=
  [.buffer (oneByteBuffer false true 1) true, .live 4, .cast (castTo 5004 1),
    .buffer (oneByteBuffer true false 2) true, .buffer (oneByteBuffer false false 3) false, .live 5,
    .stop 6, .buffer (oneByteBuffer true false 4) true]

theorem outputs_independent_mixedEvents :
    ∃ last, exec (feedStep sampleEnv) (feedInit []) mixedEvents = some last ∧
      ∃ last', exec (feedStep sampleEnv) (feedInit []) (mixedEvents.filterMap eraseLive) =
          some last' ∧ last'.camera.sent = last.camera.sent := by
  have hrun : (exec (feedStep sampleEnv) (feedInit []) mixedEvents).isSome = true := by
    decide +kernel
  obtain ⟨last, hlast⟩ := Option.isSome_iff_exists.mp hrun
  obtain ⟨⟨last', hlast', hsent, -⟩, -⟩ := outputs_independent hlast
  exact ⟨last, hlast, last', hlast', hsent⟩

end CameraDaemon
