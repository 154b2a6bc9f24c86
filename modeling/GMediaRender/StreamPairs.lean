import GMediaRender.TransportSteps

/-!
Where the URIs and metadata of the service come from. A request delivers a URI together with
its metadata, and the pairs then move from one place to another. The exception is a request
for the next stream without metadata: its URI joins the metadata of the request before.
-/
namespace GMediaRender.StreamPairs

open XmlDoc StateVariables ActionRequest OutputSilan UpnpTransport TransportValues
  TransportSteps RendererSystem Runs

abbrev Pair := String × String

/-- The pairs that a step delivers; missing metadata counts as empty. -/
def delivers (l : Label) : List Pair :=
  l.setsUri.toList ++ l.setsNext.toList.map fun p => (p.1, p.2.getD "")

/-- The pairs delivered up to and including a step. -/
def deliver (delivered : List Pair) (_ : AvTransport) (l : Label) : List Pair :=
  delivered ++ delivers l

/-- Both parts are empty, or one request has delivered them. -/
def Together (delivered : List Pair) (p : Pair) : Prop := p = ("", "") ∨ p ∈ delivered

def currentPair (v : Values) : Pair := (v .avUri, v .avUriMeta)

def nextPair (v : Values) : Pair := (v .nextAvUri, v .nextAvUriMeta)

def trackPair (v : Values) : Pair := (v .curTrackUri, v .curTrackMeta)

structure Paired (delivered : List Pair) (v : Values) : Prop where
  current : Together delivered (currentPair v)
  next : Together delivered (nextPair v)
  track : Together delivered (trackPair v)

/-- A next URI that comes without metadata finds none, or finds metadata that has been
delivered with this very URI. -/
def NextComplete (p : AvTransport × List Pair) (l : Label) : Prop :=
  ∀ uri, l.setsNext = some (uri, none) →
    p.1.vars.values .nextAvUriMeta = "" ∨ (uri, p.1.vars.values .nextAvUriMeta) ∈ p.2

variable {delivered : List Pair} {v : Values} {l : Label}

theorem Together.mono {delivered' : List Pair} {p : Pair} (h : Together delivered p)
    (hsub : delivered ⊆ delivered') : Together delivered' p := h.imp_right fun hp => hsub hp

theorem Paired.deliver (h : Paired delivered v) (s : AvTransport) (l : Label) :
    Paired (deliver delivered s l) v :=
  ⟨h.current.mono (List.subset_append_left ..), h.next.mono (List.subset_append_left ..),
    h.track.mono (List.subset_append_left ..)⟩

theorem together_of_setsUri (s : AvTransport) {p : Pair} (h : l.setsUri = some p) :
    Together (deliver delivered s l) p := by
  refine Or.inr (List.mem_append_right _ (List.mem_append_left _ ?_))
  simp [h]

/-- A request for the next stream delivers its URI and metadata; the pair that results is a
delivered one unless the metadata is missing. -/
theorem together_queued (s : AvTransport) {uri : String} {metadata : Option String}
    (h : l.setsNext = some (uri, metadata)) :
    Together (deliver delivered s l) (nextPair (queued uri metadata v)) ↔
      (metadata = none → v .nextAvUriMeta = "" ∨ (uri, v .nextAvUriMeta) ∈ delivered) := by
  have hnone : l.setsUri = none := by
    unfold Label.setsNext at h
    split at h
    · rfl
    · simp at h
  have hdelivers : deliver delivered s l = delivered ++ [(uri, metadata.getD "")] := by
    simp [deliver, delivers, hnone, h]
  rw [hdelivers]
  cases metadata with
  | some metadata => simp [Together, nextPair, queued]
  | none =>
    simp only [Together, nextPair, queued, Option.getD_none, List.mem_append,
      List.mem_singleton, Prod.mk.injEq, true_imp_iff, true_and]
    tauto

theorem Paired.congr {v' : Values} (h : Paired delivered v)
    (hcurrent : currentPair v' = currentPair v) (hnext : nextPair v' = nextPair v)
    (htrack : trackPair v' = trackPair v) : Paired delivered v' :=
  ⟨hcurrent ▸ h.current, hnext ▸ h.next, htrack ▸ h.track⟩

/-- A request for the next stream does nothing else to the values. -/
theorem step_setsNext (s : AvTransport) {uri : String} {metadata : Option String}
    (h : l.setsNext = some (uri, metadata)) :
    (step s l).vars.values = queued uri metadata s.vars.values := by
  unfold Label.setsNext at h
  split at h
  case h_2 => simp at h
  case h_1 doc env =>
    obtain ⟨id, hid, h⟩ := Option.bind_eq_some_iff.mp h
    obtain ⟨uri', huri, h⟩ := Option.map_eq_some_iff.mp h
    obtain ⟨rfl, rfl⟩ := Prod.mk.inj h
    have hact := visible_act s ⟨.setNextUri, doc, env⟩
    have hvalues : (step s (.action .setNextAvTransportUri doc env)).vars.values =
        ((visible s).act ⟨.setNextUri, doc, env⟩).values := congrArg Visible.values hact
    rw [hvalues]
    simp [Visible.act, hid, huri, Visible.setNextUri, visible]

theorem Paired.switched (h : Paired delivered v) (new : TransportState) :
    Paired delivered (switched new v) := by
  unfold TransportValues.switched
  split_ifs
  · exact h
  · cases availableActions new <;> exact h.congr rfl rfl rfl

theorem Paired.trackStarted (h : Paired delivered v) : Paired delivered (trackStarted v) :=
  ⟨h.current, h.next, h.current⟩

/-- Every move but that of a new next stream keeps the pairs. -/
theorem Paired.moved (s : AvTransport) (hnext : l.setsNext = none) {st st' : TransportState}
    {v' : Values} (h : Paired (StreamPairs.deliver delivered s l) v)
    (hmoved : Moved l st v st' v') : Paired (StreamPairs.deliver delivered s l) v' := by
  have hempty : Together (StreamPairs.deliver delivered s l) ("", "") := Or.inl rfl
  cases hmoved with
  | uriSet uri metadata hl hst => exact ⟨together_of_setsUri s hl, h.next, h.track⟩
  | uriReplaced uri metadata hl hst =>
    exact ⟨together_of_setsUri s hl, h.next, together_of_setsUri s hl⟩
  | queued uri metadata hl => exact absurd (hnext.symm.trans hl) (by simp)
  | started =>
    have hrewound : Paired (StreamPairs.deliver delivered s l) (rewound v) := h.congr rfl rfl rfl
    exact (hrewound.switched .playing).trackStarted
  | resumed => exact (h.switched .playing).trackStarted
  | paused => exact h.switched .pausedPlayback
  | stopped => exact h.switched .stopped
  | cleared =>
    have hcleared : Paired (StreamPairs.deliver delivered s l) (cleared v) :=
      ⟨hempty, h.next, hempty⟩
    exact hcleared.switched .stopped
  | nextStarted => exact ⟨h.next, hempty, h.next⟩
  | _ => exact h.congr rfl rfl rfl

/-- A step keeps the pairs exactly if it does not take a next URI into other metadata. -/
theorem paired_step (p : AvTransport × List Pair) (l : Label) (h : Paired p.2 p.1.vars.values) :
    Paired (track step deliver p l).2 (track step deliver p l).1.vars.values ↔
      NextComplete p l := by
  have hkept := h.deliver p.1 l
  rcases Option.eq_none_or_eq_some l.setsNext with hnone | ⟨⟨uri, metadata⟩, hsome⟩
  · refine iff_of_true (hkept.moved p.1 hnone (step_moved p.1 l)) fun uri huri => ?_
    exact absurd (hnone.symm.trans huri) (by simp)
  · have hvalues : (track step deliver p l).1.vars.values =
        queued uri metadata p.1.vars.values := step_setsNext p.1 hsome
    have hqueued : Together (deliver p.2 p.1 l) (nextPair (queued uri metadata p.1.vars.values)) ↔
        (metadata = none → p.1.vars.values .nextAvUriMeta = "" ∨
          (uri, p.1.vars.values .nextAvUriMeta) ∈ p.2) := together_queued p.1 hsome
    rw [hvalues]
    constructor
    · intro hpaired uri' huri'
      obtain ⟨rfl, rfl⟩ := Prod.mk.inj (Option.some.inj (hsome.symm.trans huri'))
      exact hqueued.mp hpaired.next rfl
    · intro hcomplete
      refine ⟨hkept.current, hqueued.mpr fun hmeta => ?_, hkept.track⟩
      subst hmeta
      exact hcomplete uri hsome

section Main

variable (d : SilanData) (ls : List Label)

/-- From start-up the three pairs stay together throughout a run exactly when no next URI comes
without metadata while there is metadata of another. -/
theorem paired_run_iff :
    AllSteps (track step deliver)
        (fun p l => Paired (track step deliver p l).2 (track step deliver p l).1.vars.values)
        (initial d, []) ls ↔
      AllSteps (track step deliver) NextComplete (initial d, []) ls :=
  allSteps_next_iff (I := fun p : AvTransport × List Pair => Paired p.2 p.1.vars.values) _
    paired_step
    ⟨Or.inl rfl, Or.inl rfl, Or.inl rfl⟩ ls

def nextRequest (uri : String) (metadata : List (String × String)) : Label :=
  .action .setNextAvTransportUri (requestDoc "SetNextAVTransportURI"
    ([("InstanceID", "0"), ("NextURI", uri)] ++ metadata)) allSent

/-- The second URI is shown with the metadata of the first. -/
theorem not_paired_nextRequests : ¬ AllSteps (track step deliver)
    (fun p l => Paired (track step deliver p l).2 (track step deliver p l).1.vars.values)
    (initial (outputSilanInit allSent 0 50 0), [])
    [nextRequest "http://a/1.mp3" [("NextURIMetaData", "one")],
      nextRequest "http://a/2.mp3" []] := by
  intro h
  have hnext := h.2.1.next
  revert hnext
  unfold Together
  decide

end Main

end GMediaRender.StreamPairs
