import GMediaRender.SeekTargets
import GMediaRender.TransportSteps

/-!
What an event of the renderer does to the output module: at most one call of its interface, or
a message or a pass of the watchdog. What only some of the calls touch is then left alone by
the others.
-/
namespace GMediaRender.OutputCalls

open XmlDoc StateVariables ActionRequest OutputSilan UpnpTransport UpnpControl TransportValues
  TransportSteps SeekTargets RendererSystem

/-- The calls of the output module outside its own loop. -/
inductive Called (env : Env) (d : SilanData) : SilanData → Prop
  | nothing : Called env d d
  | setUri (uri : String) : Called env d (outputSilanSetUri d uri)
  | setNextUri (uri : String) : Called env d (outputSilanSetNextUri d uri)
  | getPosition : Called env d (outputSilanGetPosition env d).1
  | play : Called env d (outputSilanPlay env d).1
  | stop : Called env d (outputSilanStop env d).1
  | pause : Called env d (outputSilanPause env d).1
  | seek (position : ℤ) : Called env d (outputSilanSeek env d position).1
  | setVolume (v : ℤ) : Called env d (outputSilanSetVolume env d v).1
  | setMute (m : ℤ) : Called env d (outputSilanSetMute env d m).1
  | setSpdifin : Called env d (outputSilanSetSpdifin env d)
  | received (m : Message) : Called env d (outputSilanRecvCmd env d m).1

section Handlers

variable (env : Env) (doc : Option (List Node))

theorem startPlaying_called (p : Visible) : Called env p.silan (p.startPlaying env).silan := by
  unfold Visible.startPlaying
  split_ifs <;> exact .play

theorem act_called (p : Visible) (r : Request) : Called r.env p.silan (p.act r).silan := by
  obtain ⟨action, doc, env⟩ := r
  unfold Visible.act
  by_cases hid : (argument doc "InstanceID").isSome = true
  · rw [if_pos hid]
    cases action with
    | setUri =>
      simp only
      cases argument doc "CurrentURI" with
      | none => exact .nothing
      | some uri => exact .setUri uri
    | setNextUri =>
      simp only
      cases argument doc "NextURI" with
      | none => exact .nothing
      | some uri => exact .setNextUri uri
    | play =>
      simp only [Visible.play]
      split
      · exact startPlaying_called env { p with values := rewound p.values }
      · exact startPlaying_called env p
      · exact .nothing
    | pause =>
      simp only [Visible.pause]
      split_ifs
      · exact .pause
      · exact .pause
      · exact .nothing
    | stop =>
      simp only [Visible.stop]
      split_ifs
      · exact .nothing
      · exact .stop
  · rw [if_neg hid]
    exact .nothing

theorem transportActions_called (s : AvTransport) (cmd : TransportCmd) :
    Called env s.silan (transportActions env s (newRequest doc) cmd).state.silan := by
  have hact : ∀ r : Request, Called r.env s.silan (act s r).silan := by
    intro r
    have hcalled := act_called (visible s) r
    rw [← visible_act s r] at hcalled
    exact hcalled
  cases cmd with
  | setAvTransportUri => exact hact ⟨.setUri, doc, env⟩
  | setNextAvTransportUri => exact hact ⟨.setNextUri, doc, env⟩
  | play => exact hact ⟨.play, doc, env⟩
  | pause => exact hact ⟨.pause, doc, env⟩
  | stop => exact hact ⟨.stop, doc, env⟩
  | seek =>
    rw [transportActions]
    cases hsought : soughtTarget doc with
    | some target =>
      have hcalled : Called env s.silan _ := .seek (UpnpTime.parseUpnpTime target)
      rw [outputSilanSeek_eq] at hcalled
      rw [seek_of_sought env s hsought]
      exact hcalled
    | none =>
      rw [seek_of_not_sought env s hsought]
      exact .nothing
  | getPositionInfo =>
    by_cases hid : (argument doc "InstanceID").isSome = true
    · rw [transportActions, getPositionInfo, withInstanceid_some s doc _ hid]
      exact .getPosition
    · rw [transportActions, getPositionInfo, withInstanceid_none s doc _ hid]
      exact .nothing
  | _ =>
    have hsame := reportVariables_state s doc
    simp only [transportActions, getCurrentTransportactions, getDeviceCaps, getMediaInfo,
      getTransportInfo, getTransportSettings, hsame]
    exact .nothing

theorem controlActions_called (s : Control) (cmd : ControlCmd) :
    Called env s.silan (controlActions env s (newRequest doc) cmd).state.silan := by
  rcases controlActions_state env s (newRequest doc) cmd with
    hstate | ⟨value, hstate⟩ | ⟨value, hstate⟩
  · rw [hstate]
    exact .nothing
  · rw [hstate]
    exact .setMute value
  · rw [hstate]
    exact .setVolume _

/-- The volume of the key is the one that is set. -/
theorem volumeKey_called (s : Control) (dir : ℤ) :
    Called env s.silan (volumeKey env s dir).silan := by
  unfold volumeKey
  split_ifs
  · have hset : Called env s.silan _ :=
      .setVolume (clampVolume (volumeChange s.silan.volume dir))
    rw [outputSilanSetVolume, sendCmd_of_bit_none env _ .slmpSetVolume _ _ rfl] at hset
    simp only [upnpControlSetVolume_eq]
    exact hset
  · exact .nothing

end Handlers

/-- Every event but a pass of the watchdog makes one call, and leaves the counters alone. -/
theorem step_called (s : Renderer) (e : Event) : (∃ lock env, e = .idlePass lock env) ∨
    (∃ env, Called env s.silan (s.step e).silan) ∧ (s.step e).counters = s.counters := by
  rcases e with ⟨cmd | cmd, doc, env⟩ | ⟨_ | _ | _ | _, env⟩ | ⟨m, env⟩ | ⟨lock, env⟩
  · exact Or.inr ⟨⟨env, transportActions_called env doc s.transport cmd⟩, rfl⟩
  · exact Or.inr ⟨⟨env, controlActions_called env doc s.controlPart cmd⟩, rfl⟩
  · refine Or.inr ⟨⟨env, ?_⟩, rfl⟩
    have hradio : Called env s.silan _ := .setSpdifin
    simpa only [Renderer.step, Renderer.handleKey, Renderer.setSilan, Renderer.silan,
      transitionFromOutput_silan] using hradio
  · exact Or.inr ⟨⟨env, volumeKey_called env s.controlPart 1⟩, rfl⟩
  · exact Or.inr ⟨⟨env, volumeKey_called env s.controlPart (-1)⟩, rfl⟩
  · exact Or.inr ⟨⟨env, .setMute _⟩, rfl⟩
  · refine Or.inr ⟨⟨env, ?_⟩, rfl⟩
    have hreceived : Called env s.silan _ := .received m
    have hsame : (s.step (.message m env)).silan = (outputSilanRecvCmd env s.silan m).1 := by
      simp only [Renderer.step, Renderer.handleMessage, Renderer.silan, receive]
      split <;> simp
    rw [hsame]
    exact hreceived
  · exact Or.inl ⟨lock, env, rfl⟩

section Effects

/-- A command with data is CMD_SlmpPlayUri. -/
def DataIsUri (c : SentCmd) : Prop := c.data ≠ none → c.cmd = .slmpPlayUri

/-- The amplifier, its bits and its pins, is left alone, and of the commands that are sent only
CMD_SlmpPlayUri has data. -/
structure Kept (d d' : SilanData) : Prop where
  power : d'.status .ampPower = d.status .ampPower
  mute : d'.status .ampMute = d.status .ampMute
  gpio : d'.gpio = d.gpio
  sent : ∃ new, d'.sent = d.sent ++ new ∧ ∀ c ∈ new, DataIsUri c

/-- Nothing is sent either. -/
theorem Kept.quiet {d d' : SilanData} (hpower : d'.status .ampPower = d.status .ampPower)
    (hmute : d'.status .ampMute = d.status .ampMute) (hgpio : d'.gpio = d.gpio)
    (hsent : d'.sent = d.sent) : Kept d d' :=
  ⟨hpower, hmute, hgpio, [], by rw [hsent, List.append_nil], by simp⟩

theorem Kept.refl (d : SilanData) : Kept d d := .quiet rfl rfl rfl rfl

theorem Kept.trans {d d' d'' : SilanData} (h : Kept d d') (h' : Kept d' d'') : Kept d d'' := by
  obtain ⟨new, hnew, hdata⟩ := h.sent
  obtain ⟨new', hnew', hdata'⟩ := h'.sent
  refine ⟨h'.power.trans h.power, h'.mute.trans h.mute, h'.gpio.trans h.gpio, new ++ new', ?_, ?_⟩
  · rw [hnew', hnew, List.append_assoc]
  · exact fun c hc => (List.mem_append.mp hc).elim (hdata c) (hdata' c)

theorem kept_record (d : SilanData) (c : SentCmd) (hc : DataIsUri c) : Kept d (d.record c) :=
  ⟨rfl, rfl, rfl, [c], rfl, by simpa using hc⟩

theorem kept_setStatus (d : SilanData) (b : StatusBit) (v : Bool) (hpower : b ≠ .ampPower)
    (hmute : b ≠ .ampMute) : Kept d (d.setStatus b v) :=
  .quiet (Function.update_of_ne hpower.symm _ _) (Function.update_of_ne hmute.symm _ _) rfl rfl

theorem kept_storeData (d : SilanData) (b : StatusBit) (param : ℤ) :
    Kept d (d.storeData b param) := by
  cases b <;> exact .quiet rfl rfl rfl rfl

theorem kept_sendCmd (env : Env) (d : SilanData) (cmd : Cmd) (param : ℤ) (data : Option String)
    (hbit : cmd.bit = none) (hdata : data ≠ none → cmd = .slmpPlayUri) :
    Kept d (outputSilanSendCmd env d cmd param data).1 := by
  rw [sendCmd_of_bit_none _ _ _ _ _ hbit]
  exact kept_record d _ hdata

theorem kept_setSpdifin (env : Env) (d : SilanData) : Kept d (outputSilanSetSpdifin env d) := by
  unfold outputSilanSetSpdifin
  split_ifs
  · exact .refl d
  · exact ((kept_setStatus d .spdifin true nofun nofun).trans
      (kept_sendCmd env _ .setPadMux _ none rfl nofun)).trans
      (kept_sendCmd env _ .spdifIn _ none rfl nofun)

theorem kept_getPosition (env : Env) (d : SilanData) :
    Kept d (outputSilanGetPosition env d).1 := by
  have hasked : Kept d ((d.setStatus .dataPosition true).record
      ⟨.slmpGetTimePos, 0, none, (env .slmpGetTimePos).msgsnd⟩) :=
    (kept_setStatus d .dataPosition true nofun nofun).trans (kept_record _ _ nofun)
  simp only [outputSilanGetPosition, sendCmd_position]
  cases positionReply env with
  | none => exact hasked
  | some p => exact hasked.trans (kept_storeData _ _ _)

theorem kept_play (env : Env) (d : SilanData) : Kept d (outputSilanPlay env d).1 := by
  cases huri : d.uri with
  | some uri =>
    rw [outputSilanPlay_some env d uri huri]
    exact ⟨rfl, rfl, rfl, [⟨.slmpPlayUri, 0, some uri, (env .slmpPlayUri).msgsnd⟩], rfl,
      by simp [DataIsUri]⟩
  | none =>
    rw [outputSilanPlay_none env d huri]
    split_ifs
    · exact kept_sendCmd env d .slmpPause 0 none rfl nofun
    · exact .refl d

theorem kept_recvCmd (env : Env) (d : SilanData) (m : Message) :
    Kept d (outputSilanRecvCmd env d m).1 := by
  have hstore : Kept d (storeMessage d m) := by
    unfold storeMessage
    split
    · exact kept_storeData d _ _
    · exact kept_storeData d _ _
    · exact kept_storeData d _ _
    · exact kept_storeData d _ _
    · exact .quiet rfl rfl rfl rfl
    · exact .refl d
  have hfinish : ∀ d, Kept d (finishStream env d).1 := by
    intro d
    unfold finishStream
    split
    · have htake : Kept d (takeNext d) := .quiet rfl rfl rfl rfl
      exact htake.trans (kept_sendCmd env _ .slmpPlayUri _ _ rfl fun _ => rfl)
    · exact .refl d
  unfold outputSilanRecvCmd
  split_ifs
  · exact .refl d
  · simp only
    split_ifs
    · exact hstore.trans (hfinish _)
    · exact hstore

/-- Only the watchdog switches the amplifier. -/
theorem Called.kept {env : Env} {d d' : SilanData} (h : Called env d d') : Kept d d' := by
  cases h with
  | nothing => exact .refl d
  | setUri uri => exact .quiet rfl rfl rfl rfl
  | setNextUri uri => exact .quiet rfl rfl rfl rfl
  | getPosition => exact kept_getPosition env d
  | play => exact kept_play env d
  | stop => exact kept_sendCmd env d .slmpStop 0 none rfl nofun
  | pause => exact kept_sendCmd env d .slmpPause 0 none rfl nofun
  | seek position => exact kept_sendCmd env d .slmpSeek position none rfl nofun
  | setVolume v =>
    have hset : Kept d { d with mute := 0, volume := v } := .quiet rfl rfl rfl rfl
    exact hset.trans (kept_sendCmd env _ .slmpSetVolume v none rfl nofun)
  | setMute m =>
    have hset : ∀ d : SilanData, Kept d { d with mute := m } := fun d => .quiet rfl rfl rfl rfl
    simp only [outputSilanSetMute]
    split_ifs
    · exact (kept_sendCmd env d .slmpMute m none rfl nofun).trans (hset _)
    · exact hset d
  | setSpdifin => exact kept_setSpdifin env d
  | received m => exact kept_recvCmd env d m

end Effects

end GMediaRender.OutputCalls
