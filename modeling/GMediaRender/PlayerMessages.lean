import GMediaRender.HeapBlock
import GMediaRender.PlayedUri
import GMediaRender.Watchdog

/-!
Whether a command fits into the message that takes it to the player. Only a URI can be too
long, and it is handed over in two ways: by a Play action, and at the end of a stream.
-/
namespace GMediaRender.PlayerMessages

open XmlDoc StateVariables ActionRequest OutputSilan UpnpTransport RendererSystem DeckModel
open DeckRefinement PlayedUri OutputCalls Watchdog HeapBlock Runs

section Message

/-- BUF_LEN, the size of the data of a message. -/
def bufLen : ℕ := 1024

/-- `ipc_data.data` as `output_silan_send_cmd` fills it. -/
def ipcData : Option String → Block
  | some data => (Block.malloc bufLen).strcpy (.ofString data)
  | none => (Block.malloc bufLen).write 0 0

/-- The string that a command is given, an empty one if it has none. -/
def given (data : Option String) : CString := .ofString (data.getD "")

/-- The copy stays in the message, and what is read from it is the string that was given. -/
structure Carried (c : SentCmd) : Prop where
  inBounds : (ipcData c.data).inBounds = true
  readBack : Block.readString (ipcData c.data).bytes = some (given c.data).bytes

def strlen (text : String) : ℕ := (CString.ofString text).bytes.length

theorem ipcData_eq (data : Option String) :
    ipcData data = (Block.malloc bufLen).strcpy (given data) := by
  cases data <;> rfl

/-- A message carries every string that leaves room for its NUL. -/
theorem carried_iff (c : SentCmd) : Carried c ↔ strlen (c.data.getD "") < bufLen := by
  constructor
  · intro h
    have hbounds := h.inBounds
    rw [ipcData_eq] at hbounds
    exact (Block.inBounds_strcpy_malloc _).mp hbounds
  · intro h
    refine ⟨?_, ?_⟩
    · rw [ipcData_eq]
      exact (Block.inBounds_strcpy_malloc _).mpr h
    · rw [ipcData_eq]
      exact Block.readString_strcpy_malloc _ h

end Message

section Sends

theorem setAmpMute_sent (d : SilanData) (m : Bool) : (outputSilanSetAmpMute d m).sent = d.sent := by
  unfold outputSilanSetAmpMute
  split_ifs <;> rfl

theorem setAmpPower_sent (d : SilanData) (m : Bool) :
    (outputSilanSetAmpPower d m).sent = d.sent := by
  have hmute := setAmpMute_sent d true
  unfold outputSilanSetAmpPower
  split_ifs
  · exact hmute
  · exact hmute
  · rfl

theorem watchAmpMute_sent (c : Counters) (d : SilanData) :
    (watchAmpMute c d).2.sent = d.sent := by
  have hmute := setAmpMute_sent d false
  unfold watchAmpMute
  split_ifs
  · rfl
  · exact hmute
  · rfl
  · rfl

/-- Of the commands that are sent, only CMD_SlmpPlayUri has data. -/
def SendsUris (d d' : SilanData) : Prop := ∃ new, d'.sent = d.sent ++ new ∧ ∀ c ∈ new, DataIsUri c

theorem SendsUris.of_eq {d d' : SilanData} (h : d'.sent = d.sent) : SendsUris d d' :=
  ⟨[], by rw [h, List.append_nil], by simp⟩

theorem sendsUris_watched {env : Env} {c : Counters} {d : SilanData} {lock : Option ℤ}
    {r : Counters × SilanData} (h : Watched env c d lock r) : SendsUris d r.2 := by
  cases h with
  | lockedUp | powerOff | playingUp => exact .of_eq (setAmpPower_sent d _)
  | toSpdifin => exact (kept_setSpdifin env d).sent
  | locked | unlocked | unlockedOn | playing | still | stillOn => exact .of_eq rfl

theorem sendsUris_step (s : Renderer) (e : Event) : SendsUris s.silan (s.step e).silan := by
  rcases step_called s e with ⟨lock, env, rfl⟩ | ⟨⟨env, hcalled⟩, -⟩
  · obtain ⟨new, hnew, hdata⟩ := sendsUris_watched (watch_watched env s.counters s.silan lock)
    exact ⟨new, (watchAmpMute_sent _ _).trans hnew, hdata⟩
  · exact hcalled.kept.sent

/-- The messages of the commands sent so far. -/
def MessagesFit (s : Renderer) : Prop := ∀ c ∈ s.silan.sent, Carried c

/-- The URIs that the commands send are shorter than the data of a message. -/
def UrisShort (cs : List Command) : Prop := ∀ uri ok, .playUri uri ok ∈ cs → strlen uri < bufLen

theorem sentCommand_eq_playUri {c : SentCmd} {uri : String} {ok : Bool} :
    sentCommand c = some (.playUri uri ok) ↔
      c.cmd = .slmpPlayUri ∧ c.data.getD "" = uri ∧ c.delivered = ok := by
  unfold sentCommand
  split <;> simp_all

theorem carried_iff_urisShort {new : List SentCmd} (hdata : ∀ c ∈ new, DataIsUri c) :
    (∀ c ∈ new, Carried c) ↔ UrisShort (commands new) := by
  constructor
  · intro h uri ok hmem
    obtain ⟨c, hc, hcmd⟩ := List.mem_filterMap.mp hmem
    obtain ⟨-, rfl, -⟩ := sentCommand_eq_playUri.mp hcmd
    exact (carried_iff c).mp (h c hc)
  · intro h c hc
    rw [carried_iff]
    by_cases hsome : c.data = none
    · rw [hsome]
      decide
    · refine h _ c.delivered (List.mem_filterMap.mpr ⟨c, hc, ?_⟩)
      exact sentCommand_eq_playUri.mpr ⟨hdata c hc hsome, rfl, rfl⟩

/-- A step keeps the messages fitting exactly if the URIs that it sends are short. -/
theorem messagesFit_step_iff (s : Renderer) (e : Event) :
    MessagesFit (s.step e) ↔ MessagesFit s ∧ UrisShort (sentCommands s e) := by
  obtain ⟨new, hnew, hdata⟩ := sendsUris_step s e
  have hsent : sentCommands s e = commands new := by
    rw [sentCommands, newlySent, hnew, List.drop_left]
  rw [hsent, ← carried_iff_urisShort hdata, MessagesFit, hnew]
  simp only [List.mem_append, or_imp, forall_and]
  exact Iff.rfl

end Sends

section Handovers

/-- If the step hands over a URI, by a Play action or at the end of a stream, it is shorter than
the data of a message. -/
def HandsOverShort (s : Renderer) : Event → Prop
  | .action (.transport .play) doc _ =>
    (argument doc "InstanceID").isSome = true →
    s.transport.transportState = .stopped ∨ s.transport.transportState = .pausedPlayback →
    ∀ uri, s.silan.uri = some uri → strlen uri < bufLen
  | .message m _ =>
    m.des = swaSignalUi → m.cmd = .slmpPlayState →
    endOfStream { s.silan with state := m.param } = true →
    ∀ uri, s.silan.uriNext = some uri → strlen uri < bufLen
  | _ => True

theorem urisShort_play_iff (s : Renderer) (doc : Option (List Node)) (env : Env) :
    UrisShort (sentCommands s (.action (.transport .play) doc env)) ↔
      HandsOverShort s (.action (.transport .play) doc env) := by
  constructor
  · intro h hdoc hstate uri huri
    exact h uri _ (mem_sentCommands_play.mpr ⟨hdoc, hstate, huri, rfl⟩)
  · intro h uri ok hsent
    obtain ⟨hdoc, hstate, huri, -⟩ := mem_sentCommands_play.mp hsent
    exact h hdoc hstate uri huri

theorem urisShort_message_iff (s : Renderer) (m : Message) (env : Env) :
    UrisShort (sentCommands s (.message m env)) ↔ HandsOverShort s (.message m env) := by
  constructor
  · intro h hdes hcmd hend uri huri
    refine h uri (env .slmpPlayUri).msgsnd ?_
    rw [sentCommands_eq, mem_playUri_iff]
    exact Or.inr ⟨m.param, input_eq_playState_iff.mpr ⟨m, env, rfl, hdes, hcmd, rfl, rfl⟩, hend, huri⟩
  · intro h uri ok hsent
    rw [sentCommands_eq, mem_playUri_iff] at hsent
    rcases hsent with ⟨b, hplay, -⟩ | ⟨p, hstate, hend, huri⟩
    · exact absurd (isPlay_of_input hplay) nofun
    · obtain ⟨m', env', he, hdes, hcmd, rfl, -⟩ := input_eq_playState_iff.mp hstate
      cases he
      exact h hdes hcmd hend uri huri

/-- Nothing else hands a URI over. -/
theorem urisShort_iff (s : Renderer) (e : Event) :
    UrisShort (sentCommands s e) ↔ HandsOverShort s e := by
  by_cases hplay : e.isPlay = true
  · obtain ⟨doc, env, rfl⟩ := Event.isPlay_iff.mp hplay
    exact urisShort_play_iff s doc env
  · by_cases hmessage : ∃ m env, e = .message m env
    · obtain ⟨m, env, rfl⟩ := hmessage
      exact urisShort_message_iff s m env
    · have hshort : UrisShort (sentCommands s e) := by
        intro uri ok hsent
        rw [sentCommands_eq, mem_playUri_iff] at hsent
        rcases hsent with ⟨b, hi, -⟩ | ⟨p, hi, -⟩
        · exact absurd (isPlay_of_input hi) hplay
        · obtain ⟨m, env, rfl, -⟩ := input_eq_playState_iff.mp hi
          exact absurd ⟨m, env, rfl⟩ hmessage
      refine iff_of_true hshort ?_
      unfold HandsOverShort
      split
      · exact absurd rfl hplay
      · exact absurd ⟨_, _, rfl⟩ hmessage
      · trivial

theorem messagesFit_iff (s : Renderer) (es : List Event) :
    MessagesFit (run Renderer.step s es) ↔
      MessagesFit s ∧ AllSteps Renderer.step HandsOverShort s es := by
  induction es generalizing s with
  | nil => exact (and_iff_left trivial).symm
  | cons e es ih => rw [run_cons, ih, messagesFit_step_iff, urisShort_iff, allSteps_cons, and_assoc]

theorem startUp_sent (env : Env) (padmux volume mute : ℤ) :
    (startUp env padmux volume mute).silan.sent =
      [⟨.setPadMux, padmux, none, (env .setPadMux).msgsnd⟩,
        ⟨.spdifIn, 0, none, (env .spdifIn).msgsnd⟩] := by
  simp only [startUp, Renderer.silan, outputSilanInit, outputSilanSetSpdifin,
    sendCmd_of_bit_none _ _ .setPadMux _ _ rfl, sendCmd_of_bit_none _ _ .spdifIn _ _ rfl]
  rfl

/-- The commands of the start-up have no data. -/
theorem messagesFit_startUp (env : Env) (padmux volume mute : ℤ) :
    MessagesFit (startUp env padmux volume mute) := by
  intro c hc
  rw [startUp_sent] at hc
  have hnone : c.data = none := by
    rcases List.mem_pair.mp hc with rfl | rfl <;> rfl
  rw [carried_iff, hnone]
  decide

/-- In every run the messages fit if and only if every URI that is handed over leaves room for
its NUL. -/
theorem messagesFit_run_iff (env : Env) (padmux volume mute : ℤ) (es : List Event) :
    MessagesFit (run Renderer.step (startUp env padmux volume mute) es) ↔
      AllSteps Renderer.step HandsOverShort (startUp env padmux volume mute) es := by
  rw [messagesFit_iff]
  exact and_iff_right (messagesFit_startUp env padmux volume mute)

/-- A URI that fills the data of a message before its NUL. -/
def longUri : String := String.ofList ("http://a/".toList ++ List.replicate bufLen 'a')

theorem utf8_append_letters (l : List Char) (n : ℕ) :
    (l ++ List.replicate n 'a').flatMap String.utf8EncodeChar =
      l.flatMap String.utf8EncodeChar ++ List.replicate n 97 := by
  have hletter : String.utf8EncodeChar 'a' = [97] := by decide
  rw [List.flatMap_append]
  induction n with
  | zero => rfl
  | succ n ih =>
    rw [List.replicate_succ, List.flatMap_cons, hletter, List.replicate_succ]
    simpa using ih

theorem bufLen_le_strlen_longUri : bufLen ≤ strlen longUri := by
  have hchars : longUri.toList = "http://a/".toList ++ List.replicate bufLen 'a' :=
    String.toList_ofList
  have hbytes := utf8_append_letters "http://a/".toList bufLen
  rw [← hchars] at hbytes
  have hno : 0 ∉ longUri.toList.flatMap String.utf8EncodeChar := by
    rw [hbytes, List.mem_append, List.mem_replicate]
    exact not_or.mpr ⟨by decide, fun h => absurd h.2 (by decide)⟩
  rw [strlen, CString.ofString_bytes hno, hbytes, List.length_append, List.length_replicate]
  exact Nat.le_add_left _ _

/-- A URI that is set is pending. -/
theorem uri_setUriAction (s : Renderer) (uri : String) (hne : uri ≠ "") :
    (s.step (setUriAction uri)).silan.uri = some uri := by
  have hinput : input s (setUriAction uri) = .setUri uri := by
    simp [input, setUriAction, transportInput, argument, requestDoc, upnpGetString, newRequest,
      nodeChildren, nodeName, nodeValue]
  have huri := congrArg Deck.uri (deck_step s (setUriAction uri))
  rw [hinput] at huri
  exact huri.trans (nonEmpty_eq_some.mpr ⟨rfl, hne⟩)

/-- A Play action copies the URI past the end of the message. -/
theorem not_messagesFit_long : ¬ MessagesFit (run Renderer.step (startUp allSent 0 0 0)
    [setUriAction longUri, playAction]) := by
  have hlong := bufLen_le_strlen_longUri
  have hne : longUri ≠ "" := by
    intro hempty
    rw [hempty] at hlong
    exact absurd hlong (by decide)
  rw [messagesFit_iff]
  rintro ⟨-, -, hplay, -⟩
  have hshort := hplay (by decide) (Or.inl rfl) longUri (uri_setUriAction _ longUri hne)
  omega

end Handovers

section Controllers

/-- The URIs that the output module holds are short. -/
structure HeldShort (d : Deck) : Prop where
  uri : ∀ uri, d.uri = some uri → strlen uri < bufLen
  uriNext : ∀ uri, d.uriNext = some uri → strlen uri < bufLen

/-- The URI that the event sets, if any, is short. -/
def SetsShort : Event → Prop
  | .action (.transport .setAvTransportUri) doc _ =>
    ∀ uri, argument doc "CurrentURI" = some uri → strlen uri < bufLen
  | .action (.transport .setNextAvTransportUri) doc _ =>
    ∀ uri, argument doc "NextURI" = some uri → strlen uri < bufLen
  | _ => True

variable {s : Renderer} {e : Event}

theorem SetsShort.uri (h : SetsShort e) {uri : String} (hi : input s e = .setUri uri) :
    strlen uri < bufLen := by
  have hevent := eventInput s e
  rw [hi] at hevent
  cases hevent with
  | setUri doc env uri hdoc harg => exact h uri harg

theorem SetsShort.nextUri (h : SetsShort e) {uri : String} (hi : input s e = .setNextUri uri) :
    strlen uri < bufLen := by
  have hevent := eventInput s e
  rw [hi] at hevent
  cases hevent with
  | setNextUri doc env uri hdoc harg => exact h uri harg

theorem heldShort_step (h : HeldShort (deck s)) (hset : SetsShort e) :
    HeldShort (deck (s.step e)) := by
  have hstepped := stepped (deck s) (input s e)
  rw [← deck_step] at hstepped
  have huri : ∀ uri, input s e = .setUri uri → strlen uri < bufLen := fun _ => hset.uri
  have hnext : ∀ uri, input s e = .setNextUri uri → strlen uri < bufLen := fun _ => hset.nextUri
  generalize ((deck s).step (input s e)).2 = cs at hstepped
  generalize deck (s.step e) = d' at hstepped ⊢
  generalize input s e = i at hstepped huri hnext
  cases hstepped with
  | setUri uri =>
    refine ⟨fun v hv => ?_, h.uriNext⟩
    obtain ⟨rfl, -⟩ := nonEmpty_eq_some.mp hv
    exact huri _ rfl
  | setNextUri uri =>
    refine ⟨h.uri, fun v hv => ?_⟩
    obtain ⟨rfl, -⟩ := nonEmpty_eq_some.mp hv
    exact hnext _ rfl
  | played a b uri => cases a <;> exact ⟨nofun, h.uriNext⟩
  | resumed a b => cases b <;> exact ⟨h.uri, h.uriNext⟩
  | paused ok => cases ok <;> exact ⟨h.uri, h.uriNext⟩
  | next p ok uri hend hpending =>
    refine ⟨fun v hv => ?_, nofun⟩
    obtain rfl := Option.some.inj hv
    exact h.uriNext _ hpending
  | _ => exact ⟨h.uri, h.uriNext⟩

theorem HeldShort.handsOverShort (h : HeldShort (deck s)) (e : Event) : HandsOverShort s e := by
  unfold HandsOverShort
  split
  · exact fun _ _ => h.uri
  · exact fun _ _ _ => h.uriNext
  · trivial

/-- The messages fit as long as controllers set short URIs only. -/
theorem messagesFit_of_setsShort (env : Env) (padmux volume mute : ℤ) {es : List Event}
    (hes : ∀ e ∈ es, SetsShort e) :
    MessagesFit (run Renderer.step (startUp env padmux volume mute) es) := by
  have hstart : HeldShort (deck (startUp env padmux volume mute)) := by
    rw [deck_startUp]
    exact ⟨nofun, nofun⟩
  refine (messagesFit_iff _ _).mpr ⟨messagesFit_startUp env padmux volume mute, ?_⟩
  exact allSteps_of_labels Renderer.step (I := fun s => HeldShort (deck s))
    (fun s e h hset => ⟨h.handsOverShort e, heldShort_step h hset⟩) hstart hes

end Controllers

end GMediaRender.PlayerMessages
