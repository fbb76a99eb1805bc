import LabNetstack.Executions
import LabNetstack.ReceivedInput

/-! Which frames a device hands to its callback, and what it learns about its peer, over any
sequence of frames. -/

namespace LabNetstack

namespace Device

def Destined (device : Device) (data : Buffer) : Prop :=
  6 ≤ data.bytes.length ∧ (data.field 0 6 = List.replicate 6 0xff ∨
    data.field 0 6 = device.macAddress.address.octets)

/-- An Ethernet II frame for the device that carries IPv4. -/
def CarriesIP (device : Device) (data : Buffer) : Prop :=
  14 ≤ data.bytes.length ∧ device.Destined data ∧ data.field 12 2 = [8, 0]

instance decidableDestined (device : Device) (data : Buffer) : Decidable (device.Destined data) :=
  inferInstanceAs (Decidable (_ ∧ _))

instance decidableCarriesIP (device : Device) (data : Buffer) : Decidable (device.CarriesIP data) :=
  inferInstanceAs (Decidable (_ ∧ _))

/-- The type of a frame stands at `typeOffset` as the decoder sees it. -/
def Typed (data : Buffer) : Prop :=
  typeOffset data + 2 ≤ data.bytes.length ∧ data.field (typeOffset data) 2 = [8, 0]

instance decidableTyped (data : Buffer) : Decidable (Typed data) :=
  inferInstanceAs (Decidable (_ ∧ _))

/-- What one frame does. -/
structure Decoded (device : Device) (data : Buffer) (handed : Option Buffer) (after : Device) :
    Prop where
  callback : after.hasCallback = device.hasCallback
  address : after.macAddress = device.macAddress
  payload : handed.map Buffer.bytes = if device.Destined data ∧ Typed data then
    some (data.bytes.drop (typeOffset data + 2)) else none
  kept : device.peerAddress.isSpec = true ∨ ¬device.Destined data ∨
    sourceOf data = List.replicate 6 0xff → after.peerAddress = device.peerAddress
  learned : device.peerAddress.isSpec = false → device.Destined data →
    sourceOf data ≠ List.replicate 6 0xff →
    after.peerAddress.isSpec = true ∧ after.peerAddress.address.octets = sourceOf data

theorem destinationOf_iff {device : Device} {data : Buffer}
    (nonzero : device.macAddress.address.octets ≠ List.replicate 6 0) :
    (destinationOf data = List.replicate 6 0xff ∨
      destinationOf data = device.macAddress.address.octets) ↔ device.Destined data := by
  unfold destinationOf Destined
  by_cases short : data.bytes.length < 6
  · rw [if_pos short]
    refine iff_of_false ?_ (by omega)
    rintro (broadcast | own)
    · exact absurd broadcast (by decide)
    · exact nonzero own.symm
  · rw [if_neg short]
    exact (and_iff_right (by omega)).symm

theorem findPeer_kept {device : Device} {source : MacAddress}
    (stays : device.peerAddress.isSpec = true ∨ source.isBroadcast = true) :
    device.findPeer source = device := by
  unfold findPeer MacAddress.isSpecified
  rcases stays with known | broadcast
  · rw [known]
    rfl
  · rw [broadcast, Bool.not_true, Bool.and_false]
    rfl

theorem findPeer_learned {device : Device} {source : MacAddress}
    (unknown : device.peerAddress.isSpec = false) (own : source.isBroadcast = false) :
    device.findPeer source = { device with peerAddress := source } := by
  unfold findPeer MacAddress.isSpecified
  rw [unknown, own]
  rfl

theorem findPeer_address (device : Device) (source : MacAddress) :
    (device.findPeer source).hasCallback = device.hasCallback ∧
      (device.findPeer source).macAddress = device.macAddress := by
  unfold findPeer
  split <;> exact ⟨rfl, rfl⟩

/-- A frame that is not addressed to the device changes nothing. -/
theorem decoded_foreign {device : Device} {data : Buffer} (foreign : ¬device.Destined data) :
    Decoded device data none device where
  callback := rfl
  address := rfl
  payload := (if_neg fun both => foreign both.1).symm
  kept := fun _ => rfl
  learned := fun _ destined => absurd destined foreign

theorem decoded_mine {device : Device} {data : Buffer} {source : MacAddress} {handed : Option Buffer}
    (destined : device.Destined data) (specified : source.isSpec = true)
    (octets : source.address.octets = sourceOf data)
    (payload : handed.map Buffer.bytes = if Typed data then
      some (data.bytes.drop (typeOffset data + 2)) else none) :
    Decoded device data handed (device.findPeer source) where
  callback := (findPeer_address device source).1
  address := (findPeer_address device source).2
  payload := by
    rw [payload]
    exact if_congr (and_iff_right destined).symm rfl rfl
  kept := by
    intro stays
    have same : device.findPeer source = device := by
      apply findPeer_kept
      rcases stays with known | foreign | broadcast
      · exact Or.inl known
      · exact absurd destined foreign
      · exact Or.inr (MacAddress.isBroadcast_iff.mpr (octets.trans broadcast))
    rw [same]
  learned := by
    intro unknown _ own
    have notBroadcast : source.isBroadcast = false := by
      rw [← Bool.not_eq_true, MacAddress.isBroadcast_iff, octets]
      exact own
    rw [findPeer_learned unknown notBroadcast]
    exact ⟨specified, octets⟩

theorem decodes {device : Device} (listening : device.hasCallback = true)
    (nonzero : device.macAddress.address.octets ≠ List.replicate 6 0) (data : Buffer) :
    ∃ handed after, device.decodeWith .done data = .done (handed, after) ∧
      Decoded device data handed after := by
  obtain ⟨destination, source, octets, specified, learned, decoded⟩ :=
    decodeWith_eq Outcome.done data listening
  rw [decoded]
  split
  · rename_i foreign
    refine ⟨_, _, rfl, decoded_foreign ?_⟩
    rw [← destinationOf_iff nonzero, ← octets, ← mine_iff]
    exact not_not_intro foreign
  rename_i mine
  have destined : device.Destined data := by
    rw [← destinationOf_iff nonzero, ← octets]
    exact mine_iff.mp mine
  split
  · rename_i fits
    split
    · rename_i other
      refine ⟨_, _, rfl, decoded_mine destined specified learned ?_⟩
      rw [if_neg fun typed => (isIP_iff fits).mp other typed.2]
      rfl
    · rename_i isIP
      have typed : Typed data :=
        ⟨fits, Decidable.not_not.mp fun other => isIP ((isIP_iff fits).mpr other)⟩
      refine ⟨_, _, rfl, decoded_mine destined specified learned ?_⟩
      rw [if_pos typed, Option.map_some, DataReader.rest_at _ _ fits]
  · rename_i cut
    refine ⟨_, _, rfl, decoded_mine destined specified learned ?_⟩
    rw [if_neg fun typed => cut typed.1]
    rfl

end Device

structure Reception where
  data : Buffer
  handed : Option Buffer
  peer : MacAddress

/-- A device and the frames it received, each with what the callback got and the peer afterwards. -/
structure Listener where
  device : Device
  log : List Reception

namespace Listener

def step (listener : Listener) (data : Buffer) : Outcome Listener := do
  let (handed, device) ← listener.device.decodeWith .done data
  pure ⟨device, listener.log ++ [⟨data, handed, device.peerAddress⟩]⟩

/-- The frames handed on and the peer are what the header of Ethernet II says. -/
structure Exact (start : Device) (listener : Listener) : Prop where
  handed : ∀ reception ∈ listener.log, reception.handed.map Buffer.bytes =
    if start.CarriesIP reception.data then some (reception.data.bytes.drop 14) else none
  initial : start.peerAddress.isSpec = true → listener.device.peerAddress = start.peerAddress
  kept : ∀ reception ∈ listener.log, reception.peer.isSpec = true →
    listener.device.peerAddress = reception.peer
  learned : start.peerAddress.isSpec = false → listener.device.peerAddress.isSpec = true →
    ∃ reception ∈ listener.log, start.Destined reception.data ∧ 12 ≤ reception.data.bytes.length ∧
      listener.device.peerAddress.address.octets = reception.data.field 6 6

/-- A frame cut inside its source address that fixes the peer or is taken for IPv4. -/
def Misread (listener : Listener) (data : Buffer) : Prop :=
  listener.device.Destined data ∧ data.bytes.length < 12 ∧
    (listener.device.peerAddress.isSpec = false ∨ Device.Typed data)

instance decidableMisread (listener : Listener) (data : Buffer) :
    Decidable (listener.Misread data) :=
  inferInstanceAs (Decidable (_ ∧ _))

structure Sound (start : Device) (listener : Listener) : Prop extends Exact start listener where
  callback : listener.device.hasCallback = start.hasCallback
  address : listener.device.macAddress = start.macAddress
  unheard : listener.device.peerAddress.isSpec = false → ∀ reception ∈ listener.log,
    start.Destined reception.data → 12 ≤ reception.data.bytes.length →
      reception.data.field 6 6 = List.replicate 6 0xff

theorem sound_start (device : Device) : Sound device ⟨device, []⟩ where
  handed := by simp
  initial := fun _ => rfl
  kept := by simp
  learned := fun unknown known => absurd (unknown.symm.trans known) nofun
  callback := rfl
  address := rfl
  unheard := by simp

theorem step_decoded {listener : Listener} (listening : listener.device.hasCallback = true)
    (nonzero : listener.device.macAddress.address.octets ≠ List.replicate 6 0) (data : Buffer) :
    ∃ handed after, listener.step data =
        .done ⟨after, listener.log ++ [⟨data, handed, after.peerAddress⟩]⟩ ∧
      Device.Decoded listener.device data handed after := by
  obtain ⟨handed, after, decoded, effect⟩ := Device.decodes listening nonzero data
  refine ⟨handed, after, ?_, effect⟩
  rw [step, decoded]
  rfl

theorem Sound.destined_iff {start : Device} {listener : Listener} (sound : Sound start listener)
    {data : Buffer} : listener.device.Destined data ↔ start.Destined data := by
  unfold Device.Destined
  rw [sound.address]

theorem Sound.handed_new {start : Device} {listener : Listener} {data : Buffer}
    {handed : Option Buffer} {after : Device} (sound : Sound start listener)
    (decoded : Device.Decoded listener.device data handed after)
    (read : ¬listener.Misread data) : handed.map Buffer.bytes =
      if start.CarriesIP data then some (data.bytes.drop 14) else none := by
  rw [decoded.payload]
  by_cases cut : data.bytes.length < 12
  · have noIP : ¬start.CarriesIP data := fun carries => by
      have enough := carries.1
      omega
    rw [if_neg noIP]
    apply if_neg
    rintro ⟨destined, typed⟩
    exact read ⟨destined, cut, Or.inr typed⟩
  · have offset : Device.typeOffset data = 12 := by
      rw [Device.typeOffset, if_neg (by omega), if_neg cut]
    rw [offset]
    apply if_congr _ rfl rfl
    unfold Device.Typed Device.CarriesIP
    rw [offset, sound.destined_iff]
    exact and_left_comm

theorem Sound.peer_new {start : Device} {listener : Listener} {data : Buffer}
    {handed : Option Buffer} {after : Device} (sound : Sound start listener)
    (decoded : Device.Decoded listener.device data handed after) :
    after.peerAddress = listener.device.peerAddress ∨
      listener.device.peerAddress.isSpec = false ∧ start.Destined data ∧
        Device.sourceOf data ≠ List.replicate 6 0xff ∧ after.peerAddress.isSpec = true ∧
        after.peerAddress.address.octets = Device.sourceOf data := by
  by_cases stays : listener.device.peerAddress.isSpec = true ∨ ¬listener.device.Destined data ∨
      Device.sourceOf data = List.replicate 6 0xff
  · exact Or.inl (decoded.kept stays)
  · simp only [not_or, Bool.not_eq_true, Decidable.not_not] at stays
    obtain ⟨unknown, destined, own⟩ := stays
    exact Or.inr ⟨unknown, sound.destined_iff.mp destined, own, decoded.learned unknown destined own⟩

theorem Sound.decoded {start : Device} {listener : Listener} {data : Buffer}
    {handed : Option Buffer} {after : Device} (sound : Sound start listener)
    (decoded : Device.Decoded listener.device data handed after) (read : ¬listener.Misread data) :
    Sound start ⟨after, listener.log ++ [⟨data, handed, after.peerAddress⟩]⟩ where
  handed := by
    intro reception logged
    rcases List.mem_append.mp logged with earlier | last
    · exact sound.handed reception earlier
    · rw [List.mem_singleton.mp last]
      exact sound.handed_new decoded read
  initial := by
    intro known
    have before := sound.initial known
    rw [← before] at known
    exact (decoded.kept (Or.inl known)).trans before
  kept := by
    intro reception logged known
    rcases List.mem_append.mp logged with earlier | last
    · have before := sound.kept reception earlier known
      rw [← before] at known
      exact (decoded.kept (Or.inl known)).trans before
    · rw [List.mem_singleton.mp last]
  learned := by
    intro unknown known
    rcases sound.peer_new decoded with same | ⟨silent, destined, _, _, octets⟩
    · change after.peerAddress.isSpec = true at known
      rw [same] at known
      obtain ⟨reception, logged, facts⟩ := sound.learned unknown known
      rw [← same] at facts
      exact ⟨reception, List.mem_append_left _ logged, facts⟩
    · have whole : ¬data.bytes.length < 12 := fun cut =>
        read ⟨sound.destined_iff.mpr destined, cut, Or.inl silent⟩
      rw [Device.sourceOf, if_neg whole] at octets
      exact ⟨_, List.mem_append_right _ (List.mem_singleton_self _), destined,
        Nat.le_of_not_lt whole, octets⟩
  callback := decoded.callback.trans sound.callback
  address := decoded.address.trans sound.address
  unheard := by
    intro unknown reception logged destined whole
    change after.peerAddress.isSpec = false at unknown
    rcases sound.peer_new decoded with same | ⟨_, _, _, known, _⟩
    · rw [same] at unknown
      rcases List.mem_append.mp logged with earlier | last
      · exact sound.unheard unknown reception earlier destined whole
      · rw [List.mem_singleton.mp last] at destined whole ⊢
        by_contra own
        have source : Device.sourceOf data = data.field 6 6 := if_neg (Nat.not_lt.mpr whole)
        rw [← source] at own
        have learned := decoded.learned unknown (sound.destined_iff.mpr destined) own
        rw [same] at learned
        exact absurd (unknown.symm.trans learned.1) Bool.false_ne_true
    · exact absurd (unknown.symm.trans known) Bool.false_ne_true

theorem Sound.misread {start : Device} {listener : Listener} {data : Buffer}
    {handed : Option Buffer} {after : Device} (sound : Sound start listener)
    (decoded : Device.Decoded listener.device data handed after) (misread : listener.Misread data) :
    ¬Exact start ⟨after, listener.log ++ [⟨data, handed, after.peerAddress⟩]⟩ := by
  intro holds
  obtain ⟨destined, cut, cause⟩ := misread
  have zeros : Device.sourceOf data = List.replicate 6 0 := if_pos cut
  rcases cause with unknown | typed
  · obtain ⟨known, octets⟩ := decoded.learned unknown destined (by rw [zeros]; decide)
    have fresh : start.peerAddress.isSpec = false := by
      rw [← Bool.not_eq_true]
      intro early
      have same := sound.initial early
      rw [← same, unknown] at early
      exact absurd early nofun
    obtain ⟨reception, logged, heard, whole, source⟩ := holds.learned fresh known
    change after.peerAddress.address.octets = _ at source
    rcases List.mem_append.mp logged with earlier | last
    · rw [sound.unheard unknown reception earlier heard whole, octets, zeros] at source
      exact absurd source (by decide)
    · rw [List.mem_singleton.mp last] at whole
      exact absurd whole (Nat.not_le.mpr cut)
  · have payload := holds.handed _ (List.mem_append_right _ (List.mem_singleton_self _))
    have noIP : ¬start.CarriesIP data := fun carries => by
      have enough := carries.1
      omega
    rw [decoded.payload, if_pos ⟨destined, typed⟩, if_neg noIP] at payload
    exact absurd payload nofun

theorem execute_completes {listener : Listener} (listening : listener.device.hasCallback = true)
    (nonzero : listener.device.macAddress.address.octets ≠ List.replicate 6 0)
    (frames : List Buffer) : ∃ final, execute step listener frames = .done final := by
  refine execute_done (motive := fun listener _ => listener.device.hasCallback = true ∧
    listener.device.macAddress.address.octets ≠ List.replicate 6 0) ?_ ⟨listening, nonzero⟩
  rintro listener data _ ⟨listening, nonzero⟩
  obtain ⟨handed, after, taken, decoded⟩ := step_decoded listening nonzero data
  refine ⟨_, taken, decoded.callback.trans listening, ?_⟩
  rw [decoded.address]
  exact nonzero

theorem decodeFrame_exact_iff {device : Device} (listening : device.hasCallback = true)
    (nonzero : device.macAddress.address.octets ≠ List.replicate 6 0) (frames : List Buffer) :
    (∃ final, execute step ⟨device, []⟩ frames = .done final) ∧
    (Throughout step (Exact device) ⟨device, []⟩ frames ↔
      Allowed step (fun listener data => ¬listener.Misread data) ⟨device, []⟩ frames) := by
  refine ⟨execute_completes listening nonzero frames, ?_⟩
  have effect : ∀ listener data next, Sound device listener → step listener data = .done next →
      ∃ handed after, next = ⟨after, listener.log ++ [⟨data, handed, after.peerAddress⟩]⟩ ∧
        Device.Decoded listener.device data handed after := by
    intro listener data next sound taken
    obtain ⟨handed, after, decoded, facts⟩ := step_decoded (sound.callback.trans listening)
      (by rw [sound.address]; exact nonzero) data
    cases taken.symm.trans decoded
    exact ⟨handed, after, rfl, facts⟩
  refine throughout_iff (motive := Sound device) (fun _ sound => sound.toExact) ?_ ?_
    (sound_start device) (allowed_of_forall (fun _ _ => trivial) _ _)
  · intro listener data next sound _ read taken
    obtain ⟨handed, after, rfl, decoded⟩ := effect listener data next sound taken
    exact sound.decoded decoded read
  · intro listener data next sound _ misread taken
    obtain ⟨handed, after, rfl, decoded⟩ := effect listener data next sound taken
    exact sound.misread decoded (Decidable.not_not.mp misread)

def wholeFrame : Buffer :=
  ⟨[2, 0, 0, 0, 0, 1, 2, 0, 0, 0, 0, 7, 8, 0, 0x45], by decide⟩

theorem wholeFrames_exact :
    Throughout step (Exact sampleDevice) ⟨sampleDevice, []⟩ [wholeFrame, wholeFrame] :=
  (decodeFrame_exact_iff rfl (by decide) [wholeFrame, wholeFrame]).2.mpr (by decide)

-- ten bytes, with 08 00 where the source address begins
def cutFrame : Buffer := ⟨[255, 255, 255, 255, 255, 255, 8, 0, 0x45, 0], by decide⟩

theorem cutFrame_handed :
    step ⟨sampleDevice, []⟩ cutFrame = .done ⟨{ sampleDevice with peerAddress := ⟨true, .zero⟩ },
        [⟨cutFrame, some ⟨[0x45, 0], by decide⟩, ⟨true, .zero⟩⟩]⟩ ∧
      ¬Throughout step (Exact sampleDevice) ⟨sampleDevice, []⟩ [cutFrame] := by
  refine ⟨rfl, ?_⟩
  intro holds
  have last := holds [cutFrame] List.prefix_rfl _ rfl
  have handed := last.handed _ (List.mem_singleton_self _)
  exact absurd handed (by decide)

end Listener

end LabNetstack
