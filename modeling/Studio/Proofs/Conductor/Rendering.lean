import Studio.Proofs.Conductor.Effect

/-! The endings of the actions that render and play, over any device, one equation for
each. -/

namespace Studio.Conductor

variable {D W : Type} [AudioDevice D] {source : String} {device : D} {f : Fault}

/-- Composing a text that is a score announces all stages and asks the device once. -/
theorem composeAndLoad_eq {score : Score} (h : Score.ofText source = .ok score)
    (c : Conductor D W) :
    c.composeAndLoad source =
      let made := score.render c.libraries c.settings.defaultLibrary c.device
      (made.1.result, { c.announce with device := made.2 }.addNotes made.1.notes) := by
  have hc : c.composeAndLoad source =
      let made := score.render c.announce.libraries c.announce.settings.defaultLibrary
        c.announce.device
      (made.1.result, { c.announce with device := made.2 }.addNotes made.1.notes) := by
    simp only [composeAndLoad, h, announce]
  obtain ⟨out, ho⟩ := exists_out_of_quiet (quiet_announce c)
  have hl : c.announce.libraries = c.libraries := by rw [ho]
  have hs : c.announce.settings = c.settings := by rw [ho]
  have hd : c.announce.device = c.device := by rw [ho]
  rw [hc, hl, hs, hd]

/-! ### Rendering afresh -/

section Afresh

variable {c : Conductor D W}

theorem renderAfresh_noBuffer (h : AudioDevice.start c.release.device = (.error f, device)) :
    c.renderAfresh source = (.error f, { c.release with device }) := by
  simp only [renderAfresh, h]

theorem renderAfresh_failed (h : AudioDevice.start c.release.device = (.ok (), device))
    (hm : ({ c.release with device }.composeAndLoad source).1 = .error f) :
    c.renderAfresh source =
      (.error f,
        ({ c.release with device }.composeAndLoad source).2.release.setStage .idle) := by
  simp only [renderAfresh, h]
  split
  · next he => rw [he] at hm; cases hm
  · next he => rw [he] at hm ⊢; cases hm; rfl

theorem renderAfresh_done {r : Rendering}
    (h : AudioDevice.start c.release.device = (.ok (), device))
    (hm : ({ c.release with device }.composeAndLoad source).1 = .ok r) :
    c.renderAfresh source =
      (.ok (), ({ c.release with device }.composeAndLoad source).2.keep r source) := by
  simp only [renderAfresh, h]
  split
  · next he => rw [he] at hm ⊢; cases hm; rfl
  · next he => rw [he] at hm; cases hm

end Afresh

/-! ### Rendering if need be -/

section Ensure

variable [FileStore W] {c : Conductor D W}

theorem ensureRendered_unselected (h : c.activeFile = none) :
    c.ensureRendered = (.error .nothingSelected, c) := by
  simp only [ensureRendered, h]

theorem ensureRendered_live {file : ScoreFile} (h : c.activeFile = some file)
    (hd : c.due? = none) :
    c.ensureRendered = (.ok (), c.say .info "source unchanged; reusing the rendered graph") := by
  rcases ensureRendered_not_due hd with ⟨hn, -⟩ | ⟨-, he⟩
  · rw [h] at hn
    cases hn
  · exact he

/-! ### Rendering and playing -/

theorem render_done (h : c.ensureRendered.1 = .ok ()) : c.render = c.ensureRendered.2 := by
  unfold render
  split
  · next he => rw [he]
  · next he => rw [he] at h; cases h

theorem render_failed (h : c.ensureRendered.1 = .error f) :
    c.render = c.ensureRendered.2.report "Unable to render this file." f := by
  unfold render
  split
  · next he => rw [he] at h; cases h
  · next he => rw [he] at h ⊢; cases h; rfl

theorem play_failed (h : c.ensureRendered.1 = .error f) :
    c.play = c.ensureRendered.2.report "Unable to play this file." f := by
  unfold play
  split
  · next he => rw [he] at h ⊢; cases h; rfl
  · next he => rw [he] at h; cases h

theorem play_started (h : c.ensureRendered.1 = .ok ())
    (hp : AudioDevice.play c.ensureRendered.2.device = (.ok (), device)) :
    c.play = { c.ensureRendered.2 with device }.setStage .playing := by
  unfold play
  split
  · next he => rw [he] at h; cases h
  · next he => rw [he] at hp ⊢; simp only [hp]

theorem play_refused (h : c.ensureRendered.1 = .ok ())
    (hp : AudioDevice.play c.ensureRendered.2.device = (.error f, device)) :
    c.play = { c.ensureRendered.2 with device }.report "Unable to play this file." f := by
  unfold play
  split
  · next he => rw [he] at h; cases h
  · next he => rw [he] at hp ⊢; simp only [hp]

end Ensure

/-! ### Halting -/

section Halt

variable {c : Conductor D W}

theorem pause_done (h : AudioDevice.pause c.device = (.ok (), device)) :
    c.pause = { c with device }.advanceStage [.playing] .paused := by
  simp only [pause, h]

theorem pause_refused (h : AudioDevice.pause c.device = (.error f, device)) :
    c.pause = { c with device }.report "Unable to pause audio." f := by
  simp only [pause, h]

theorem stop_done (h : AudioDevice.stop c.device = (.ok (), device)) :
    c.stop =
      ({ c with device }.advanceStage [.playing, .paused] .stopped).emit (.position .zero) := by
  simp only [stop, h]

theorem stop_refused (h : AudioDevice.stop c.device = (.error f, device)) :
    c.stop = { c with device }.report "Unable to stop audio." f := by
  simp only [stop, h]

end Halt

/-! ### Dispatching -/

/-- The positions that the live rendering has not seen, and the device without them and
without its events. -/
def unseen (c : Conductor D W) : List Position × D :=
  let device := (AudioDevice.takeEvents c.device).2
  match c.observer with
  | none => ([], device)
  | some key => AudioDevice.takePositions key device

/-- The conductor that has passed the device's events on. -/
def relayed (c : Conductor D W) : Conductor D W :=
  ((AudioDevice.takeEvents c.device).1.map Event.transport).foldl (fun c e => c.emit e)
    { c with device := (AudioDevice.takeEvents c.device).2 }

theorem quiet_relayed (c : Conductor D W) :
    c.relayed.quiet = { c with device := (AudioDevice.takeEvents c.device).2 }.quiet :=
  quiet_foldl_emit _ _

theorem dispatch_eq (c : Conductor D W) :
    c.dispatch =
      (c.unseen.1.map Event.position).foldl (fun c e => c.emit e)
        { c.relayed with device := c.unseen.2 } := by
  obtain ⟨out, ho⟩ := exists_out_of_quiet (quiet_relayed c)
  have hd : c.dispatch =
      (c.relayed.takePositions.1.map Event.position).foldl (fun c e => c.emit e)
        c.relayed.takePositions.2 := rfl
  have ht : c.relayed.takePositions = (c.unseen.1, { c.relayed with device := c.unseen.2 }) := by
    rw [ho]
    unfold takePositions unseen
    cases c.observer <;> rfl
  rw [hd, ht]

end Studio.Conductor
