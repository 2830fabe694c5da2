import M3Midi.Component.StreamCalls

/-! # States through streams of any chunk size

A stream that holds a string and moves it in chunks of any positive sizes loads what the string
loads. A stream of any other kind is refused, and leaves the destinations, unless its calls
deliver a string that loads and then its end (`vst3_state_streams`).
-/

namespace M3Midi

open Foundation

section AnyStream

variable {State : Type} {passes : ℕ} {stream : Option (IBStream State)} {state last : State}
  {config loadedConfig : PersistentConfig} {calibration loadedCalibration : StringCalibrationBank}

/-- The calls of a stream deliver a state with its calibration, and then its end. -/
def Streams (stream : IBStream State) (state : State) (image bytes : List Byte) (last : State) :
    Prop :=
  ∃ next middle, Reads stream state stateSize image next ∧ image.length = stateSize ∧
    Reads stream next calibrationStateSize bytes middle ∧
    EndsAt stream middle (max 1 (calibrationStateSize - bytes.length)) last

/-- The image of a configuration is shorter than that of a bank. -/
theorem stateSize_lt : stateSize < calibrationStateSize := by decide

/-- A save ends, and succeeds exactly when both images exist and the stream takes them. -/
theorem saveVst3StateWithCalibration_iff (enough : calibrationStateSize < passes) :
    ∃ saved last,
      saveVst3StateWithCalibration passes config calibration stream state = some (saved, last) ∧
      (saved = true ↔ ∃ s stateImage calibrationImage middle, stream = some s ∧
        encodeState config = some stateImage ∧
        encodeCalibrationState calibration = some calibrationImage ∧
        Writes s state stateImage middle ∧ Writes s middle calibrationImage last) := by
  cases stream with
  | none => exact ⟨false, state, rfl, by simp⟩
  | some s =>
    unfold saveVst3StateWithCalibration
    cases stateEncoded : encodeState config with
    | none => exact ⟨false, state, rfl, by simp⟩
    | some stateImage =>
      cases imageEncoded : encodeCalibrationState calibration with
      | none => exact ⟨false, state, rfl, by simp⟩
      | some calibrationImage =>
        have stateRoom : stateImage.length < passes := by
          rw [length_of_encodeState stateEncoded]
          exact stateSize_lt.trans enough
        have imageRoom : calibrationImage.length < passes := by
          rwa [(encodeCalibrationState_version imageEncoded).1]
        obtain ⟨⟨written, middle⟩, first⟩ := @writeExact_leaves _ s _ _ stateRoom state
        dsimp only
        rw [first, Option.bind_some]
        cases written with
        | false =>
            refine ⟨false, middle, rfl, iff_of_false Bool.false_ne_true ?_⟩
            rintro ⟨_, _, _, other, same, sameState, -, writes, -⟩
            obtain rfl := Option.some.inj same
            obtain rfl := Option.some.inj sameState
            have succeeded := (writeExact_iff stateRoom).mpr writes
            exact absurd (Prod.mk.inj (Option.some.inj (first.symm.trans succeeded))).1
              Bool.false_ne_true
        | true =>
            obtain ⟨⟨saved, last⟩, second⟩ := @writeExact_leaves _ s _ _ imageRoom middle
            refine ⟨saved, last, second, ?_⟩
            have writes := (writeExact_iff stateRoom).mp first
            constructor
            · rintro rfl
              exact ⟨s, _, _, middle, rfl, rfl, rfl, writes, (writeExact_iff imageRoom).mp second⟩
            · rintro ⟨_, _, _, other, same, sameState, sameImage, writesState, writesImage⟩
              obtain rfl := Option.some.inj same
              obtain rfl := Option.some.inj sameState
              obtain rfl := Option.some.inj sameImage
              have again := (writeExact_iff stateRoom).mpr writesState
              obtain rfl := (Prod.mk.inj (Option.some.inj (first.symm.trans again))).2
              have succeeded := (writeExact_iff imageRoom).mpr writesImage
              exact (Prod.mk.inj (Option.some.inj (second.symm.trans succeeded))).1

/-- A load ends. -/
theorem loadVst3StateWithCalibration_ends (enough : calibrationStateSize < passes) :
    ∃ outcome, loadVst3StateWithCalibration passes stream state config calibration =
      some outcome := by
  cases stream with
  | none => exact ⟨_, rfl⟩
  | some s =>
    obtain ⟨⟨image, next⟩, read⟩ := @readExact_leaves _ s _ _ (stateSize_lt.trans enough) state
    obtain ⟨⟨bytes, last⟩, bounded⟩ := @readBoundedToEof_leaves _ s _ _ enough next
    unfold loadVst3StateWithCalibration
    dsimp only
    rw [read, Option.bind_some]
    dsimp only
    cases image.bind decodeState with
    | none => exact ⟨_, rfl⟩
    | some candidate =>
        dsimp only
        rw [bounded]
        exact ⟨_, rfl⟩

/-- What is done with the bytes behind the state image is what the string of both loads. -/
theorem finishLoad_eq {image bytes : List Byte} {candidate : PersistentConfig}
    (long : image.length = stateSize) (decoded : decodeState image = some candidate) :
    finishLoad candidate bytes config calibration =
      ((loadState (image ++ bytes)).isSome,
        (loadState (image ++ bytes)).getD (config, calibration)) := by
  rw [finishLoad, loadState_append long, decoded, Option.bind_some]
  by_cases none : bytes = []
  · rw [if_pos none, if_pos (List.length_eq_zero_iff.mpr none)]
    rfl
  · rw [if_neg none, if_neg (mt List.length_eq_zero_iff.mp none)]
    cases decodeCalibrationState bytes <;> rfl

/-- Bytes that are refused leave the destinations. -/
theorem finishLoad_refused {bytes : List Byte} {candidate : PersistentConfig}
    (refused : finishLoad candidate bytes config calibration =
      (false, loadedConfig, loadedCalibration)) :
    loadedConfig = config ∧ loadedCalibration = calibration := by
  unfold finishLoad at refused
  by_cases none : bytes.length = 0
  · rw [if_pos none] at refused
    cases refused
  · rw [if_neg none] at refused
    cases calibrated : decodeCalibrationState bytes with
    | none =>
        rw [calibrated] at refused
        cases refused
        exact ⟨rfl, rfl⟩
    | some calibrationCandidate =>
        rw [calibrated] at refused
        cases refused

/-- A load succeeds exactly when the calls deliver a string that loads and then the end of the
stream. -/
theorem loadVst3StateWithCalibration_iff (enough : calibrationStateSize < passes) :
    loadVst3StateWithCalibration passes stream state config calibration =
        some ((true, loadedConfig, loadedCalibration), last) ↔
      ∃ s image bytes, stream = some s ∧ Streams s state image bytes last ∧
        loadState (image ++ bytes) = some (loadedConfig, loadedCalibration) := by
  have room : stateSize < passes := stateSize_lt.trans enough
  constructor
  · intro loaded
    cases stream with
    | none => exact absurd (Prod.mk.inj (Prod.mk.inj (Option.some.inj loaded)).1).1 (by decide)
    | some s =>
      unfold loadVst3StateWithCalibration at loaded
      dsimp only at loaded
      obtain ⟨⟨image, next⟩, read, loaded⟩ := Option.bind_eq_some_iff.mp loaded
      dsimp only at loaded
      cases image with
      | none => exact absurd (Prod.mk.inj (Prod.mk.inj (Option.some.inj loaded)).1).1 (by decide)
      | some image =>
        obtain ⟨reads, long⟩ := (readExact_iff room).mp read
        rw [Option.bind_some] at loaded
        cases decoded : decodeState image with
        | none =>
            rw [decoded] at loaded
            exact absurd (Prod.mk.inj (Prod.mk.inj (Option.some.inj loaded)).1).1 (by decide)
        | some candidate =>
          rw [decoded] at loaded
          obtain ⟨⟨bytes, final⟩, bounded, outcome⟩ := Option.map_eq_some_iff.mp loaded
          cases bytes with
          | none => exact absurd (Prod.mk.inj (Prod.mk.inj outcome).1).1 (by decide)
          | some bytes =>
            obtain ⟨finished, rfl⟩ := Prod.mk.inj outcome
            rw [finishLoad_eq long decoded] at finished
            obtain ⟨middle, readsMore, atEnd⟩ := (readBoundedToEof_iff enough).mp bounded
            obtain ⟨some, found⟩ := Prod.mk.inj finished
            obtain ⟨result, same⟩ := Option.isSome_iff_exists.mp some
            rw [same, Option.getD_some] at found
            exact ⟨s, image, bytes, rfl, ⟨next, middle, reads, long, readsMore, atEnd⟩,
              same.trans (congrArg Option.some found)⟩
  · rintro ⟨s, image, bytes, rfl, ⟨next, middle, reads, long, readsMore, atEnd⟩, loads⟩
    have decodes : ∃ candidate, decodeState image = some candidate := by
      rw [loadState_append long] at loads
      obtain ⟨candidate, decoded, -⟩ := Option.bind_eq_some_iff.mp loads
      exact ⟨candidate, decoded⟩
    obtain ⟨candidate, decoded⟩ := decodes
    unfold loadVst3StateWithCalibration
    dsimp only
    rw [(readExact_iff room).mpr ⟨reads, long⟩, Option.bind_some]
    dsimp only
    rw [Option.bind_some, decoded]
    dsimp only
    rw [(readBoundedToEof_iff enough).mpr ⟨middle, readsMore, atEnd⟩, Option.map_some]
    dsimp only
    rw [finishLoad_eq long decoded, loads]
    rfl

/-- A load that does not succeed leaves the destinations. -/
theorem loadVst3StateWithCalibration_refused
    (refused : loadVst3StateWithCalibration passes stream state config calibration =
      some ((false, loadedConfig, loadedCalibration), last)) :
    loadedConfig = config ∧ loadedCalibration = calibration := by
  cases stream with
  | none =>
      cases refused
      exact ⟨rfl, rfl⟩
  | some s =>
    unfold loadVst3StateWithCalibration at refused
    dsimp only at refused
    obtain ⟨⟨image, next⟩, -, refused⟩ := Option.bind_eq_some_iff.mp refused
    dsimp only at refused
    cases decoded : image.bind decodeState with
    | none =>
        rw [decoded] at refused
        cases refused
        exact ⟨rfl, rfl⟩
    | some candidate =>
      rw [decoded] at refused
      obtain ⟨⟨bytes, final⟩, -, outcome⟩ := Option.map_eq_some_iff.mp refused
      cases bytes with
      | none =>
          cases outcome
          exact ⟨rfl, rfl⟩
      | some bytes => exact finishLoad_refused (Prod.mk.inj outcome).1

/-- A save without calibration ends, and succeeds exactly when the stream takes the image. -/
theorem saveVst3State_iff (enough : stateSize < passes) :
    ∃ saved last, saveVst3State passes config stream state = some (saved, last) ∧
      (saved = true ↔ ∃ s image, stream = some s ∧ encodeState config = some image ∧
        Writes s state image last) := by
  cases stream with
  | none => exact ⟨false, state, rfl, by simp⟩
  | some s =>
    unfold saveVst3State
    cases encoded : encodeState config with
    | none => exact ⟨false, state, rfl, by simp⟩
    | some image =>
      have room : image.length < passes := by rwa [length_of_encodeState encoded]
      obtain ⟨⟨saved, last⟩, written⟩ := @writeExact_leaves _ s _ _ room state
      refine ⟨saved, last, written, ?_⟩
      constructor
      · rintro rfl
        exact ⟨s, image, rfl, rfl, (writeExact_iff room).mp written⟩
      · rintro ⟨_, _, same, sameImage, writes⟩
        obtain rfl := Option.some.inj same
        obtain rfl := Option.some.inj sameImage
        have succeeded := (writeExact_iff room).mpr writes
        exact (Prod.mk.inj (Option.some.inj (written.symm.trans succeeded))).1

/-- A load without calibration ends. It succeeds exactly when the calls deliver an image that
decodes and then the end of the stream, and else leaves the destination. -/
theorem loadVst3State_iff (enough : stateSize < passes) :
    ∃ loaded loadedConfig last,
      loadVst3State passes stream state config = some ((loaded, loadedConfig), last) ∧
      (loaded = false → loadedConfig = config) ∧
      (loaded = true → ∃ s image next, stream = some s ∧ Reads s state stateSize image next ∧
        EndsAt s next 1 last ∧ decodeState image = some loadedConfig) := by
  cases stream with
  | none => exact ⟨false, config, state, rfl, fun _ => rfl, fun loaded => by cases loaded⟩
  | some s =>
    obtain ⟨⟨image, next⟩, read⟩ := @readExact_leaves _ s _ _ enough state
    unfold loadVst3State
    dsimp only
    rw [read, Option.map_some]
    cases image with
    | none => exact ⟨false, config, next, rfl, fun _ => rfl, fun loaded => by cases loaded⟩
    | some image =>
      have reads := ((readExact_iff enough).mp read).1
      dsimp only
      cases answers : s.read next 1 with
      | mk reply last =>
        cases atEnd : resultOk reply.result && decide (reply.count = 0) with
        | false =>
            refine ⟨false, config, last, ?_, fun _ => rfl, fun loaded => by cases loaded⟩
            simp only [readEof, answers, atEnd, Bool.false_eq_true, ↓reduceIte]
        | true =>
            have ends : readEof s next = (true, last) := by
              simp only [readEof, answers, atEnd]
            rw [ends, if_pos rfl, decodeStateInto]
            rw [Bool.and_eq_true, decide_eq_true_eq] at atEnd
            cases decoded : decodeState image with
            | none => exact ⟨false, config, last, rfl, fun _ => rfl, fun loaded => by cases loaded⟩
            | some candidate =>
                refine ⟨true, candidate, last, rfl, fun loaded => ?_, fun _ => ?_⟩
                · cases loaded
                · exact ⟨s, image, next, rfl, reads, ⟨reply, answers, atEnd⟩, decoded⟩

end AnyStream

/-- A stream that holds bytes, and has answered a number of calls. -/
structure StoredStream where
  bytes : List Byte := []
  calls : ℕ := 0
  deriving DecidableEq, Repr

/-- The stream moves a chunk in every call: as many bytes as it likes, or as there are. -/
def chunkedStream (chunk : ℕ → ℕ) : IBStream StoredStream where
  read stored request :=
    let count := min (chunk stored.calls) (min request stored.bytes.length)
    ({ result := kResultOk, count, buffer := stored.bytes.take count },
      { bytes := stored.bytes.drop count, calls := stored.calls + 1 })
  write stored offered :=
    let count := min (chunk stored.calls) offered.length
    ({ result := kResultOk, count },
      { bytes := stored.bytes ++ offered.take count, calls := stored.calls + 1 })

section Chunks

variable {chunk : ℕ → ℕ} (positive : ∀ call, 0 < chunk call)

/-- The bytes of a reply that filled its buffer. -/
theorem bytes_of_full {reply : StreamReply} (full : reply.buffer.length = reply.count.toNat) :
    reply.bytes = reply.buffer := by
  unfold StreamReply.bytes
  rw [← full]
  refine List.ext_getElem (by simp) fun index _ inside => ?_
  simp [inside]

/-- A chunk within the request is progress. -/
theorem progressed_chunk {count request : ℕ} (forward : 0 < count) (within : count ≤ request)
    (buffer : List Byte) :
    StreamReply.progressed { result := kResultOk, count, buffer } request = true := by
  rw [StreamReply.progressed, Bool.and_eq_true, Bool.and_eq_true, decide_eq_true_eq,
    decide_eq_true_eq]
  exact ⟨⟨rfl, Int.natCast_pos.mpr forward⟩, Int.ofNat_le.mpr within⟩

include positive in
/-- Chunks of any size deliver the bytes in order. -/
theorem chunked_reads (size : ℕ) (bytes : List Byte) (calls : ℕ) :
    ∃ later, Reads (chunkedStream chunk) ⟨bytes, calls⟩ size (bytes.take size)
      ⟨bytes.drop size, later⟩ := by
  induction size using Nat.strong_induction_on generalizing bytes calls with
  | _ size ih =>
    rcases Nat.eq_zero_or_pos (min size bytes.length) with none | some
    · have nothing : bytes.take size = [] ∧ bytes.drop size = bytes := by
        rcases Nat.min_eq_zero_iff.mp none with rfl | empty
        · exact ⟨List.take_zero, List.drop_zero⟩
        · rw [List.length_eq_zero_iff.mp empty]
          exact ⟨List.take_nil, List.drop_nil⟩
      rw [nothing.1, nothing.2]
      exact ⟨calls, .done _ _⟩
    · obtain ⟨count, counted⟩ : ∃ count, count = min (chunk calls) (min size bytes.length) :=
        ⟨_, rfl⟩
      have chunkPositive := positive calls
      have room : count ≤ bytes.length := by omega
      obtain ⟨later, reads⟩ := ih (size - count) (by omega) (bytes.drop count) (calls + 1)
      have reply : StreamReply.bytes
          { result := kResultOk, count, buffer := bytes.take count } = bytes.take count :=
        bytes_of_full (by rw [List.length_take, min_eq_left room, Int.toNat_natCast])
      have answers : (chunkedStream chunk).read ⟨bytes, calls⟩ size =
          ({ result := kResultOk, count, buffer := bytes.take count },
            { bytes := bytes.drop count, calls := calls + 1 }) := by
        rw [counted]
        rfl
      have progressed := @progressed_chunk count size (by omega) (by omega) (bytes.take count)
      have called := Reads.call answers progressed reads
      have rest : bytes.take size = bytes.take count ++ (bytes.drop count).take (size - count) := by
        rw [← List.take_add, Nat.add_sub_cancel' (by omega)]
      rw [reply, ← rest, List.drop_drop, Nat.add_sub_cancel' (by omega)] at called
      exact ⟨later, called⟩

/-- Chunks deliver what the stream held before, up to what it holds after. -/
theorem chunked_delivers {stored last : StoredStream} {size : ℕ} {bytes : List Byte}
    (reads : Reads (chunkedStream chunk) stored size bytes last) :
    stored.bytes = bytes ++ last.bytes := by
  induction reads with
  | done => rfl
  | @call stored next last size reply rest answers progressed later ih =>
      obtain ⟨rfl, rfl⟩ := Prod.mk.inj answers
      have room : min (chunk stored.calls) (min size stored.bytes.length) ≤ stored.bytes.length :=
        (min_le_right _ _).trans (min_le_right _ _)
      rw [bytes_of_full (by rw [List.length_take, min_eq_left room, Int.toNat_natCast]),
        List.append_assoc, ← ih]
      exact (List.take_append_drop _ _).symm

include positive in
/-- A stream of chunks is at its end when it holds nothing more. -/
theorem chunked_endsAt {stored last : StoredStream} {request : ℕ} (asked : 0 < request) :
    EndsAt (chunkedStream chunk) stored request last ↔
      stored.bytes = [] ∧ last = ⟨[], stored.calls + 1⟩ := by
  constructor
  · rintro ⟨reply, answers, -, zero⟩
    obtain ⟨rfl, rfl⟩ := Prod.mk.inj answers
    have some := positive stored.calls
    have none : min (chunk stored.calls) (min request stored.bytes.length) = 0 :=
      Int.natCast_eq_zero.mp zero
    have empty : stored.bytes = [] := List.length_eq_zero_iff.mp (by omega)
    refine ⟨empty, ?_⟩
    rw [empty, List.drop_nil]
  · rintro ⟨empty, rfl⟩
    refine ⟨((chunkedStream chunk).read stored request).1, Prod.ext rfl ?_, rfl, ?_⟩
    · change StoredStream.mk (stored.bytes.drop _) (stored.calls + 1) = _
      rw [empty, List.drop_nil]
    · change ((min (chunk stored.calls) (min request stored.bytes.length) : ℕ) : Int) = 0
      rw [empty, List.length_nil, Nat.min_zero, Nat.min_zero]
      rfl

include positive in
/-- Chunks of any size take the bytes in order. -/
theorem chunked_writes (bytes : List Byte) (stored : List Byte) (calls : ℕ) :
    ∃ later, Writes (chunkedStream chunk) ⟨stored, calls⟩ bytes ⟨stored ++ bytes, later⟩ := by
  induction size : bytes.length using Nat.strong_induction_on generalizing bytes stored calls with
  | _ length ih =>
    subst size
    rcases eq_or_ne bytes [] with rfl | more
    · exact ⟨calls, (List.append_nil stored).symm ▸ .done _⟩
    · have chunkPositive := positive calls
      have some := List.length_pos_iff.mpr more
      obtain ⟨count, counted⟩ : ∃ count, count = min (chunk calls) bytes.length := ⟨_, rfl⟩
      obtain ⟨later, writes⟩ := ih (bytes.drop count).length
        (by rw [List.length_drop]; omega) (bytes.drop count) (stored ++ bytes.take count)
        (calls + 1) rfl
      have answers : (chunkedStream chunk).write ⟨stored, calls⟩ bytes =
          ({ result := kResultOk, count },
            { bytes := stored ++ bytes.take count, calls := calls + 1 }) := by
        rw [counted]
        rfl
      have progressed := @progressed_chunk count bytes.length (by omega) (by omega) []
      rw [List.append_assoc, List.take_append_drop] at writes
      exact ⟨later, .call more answers progressed writes⟩

include positive in
/-- **A stream of chunks saves both images.** -/
theorem save_chunked {passes : ℕ} (enough : calibrationStateSize < passes)
    {config : PersistentConfig} {calibration : StringCalibrationBank} {state image : List Byte}
    (stateEncoded : encodeState config = some state)
    (imageEncoded : encodeCalibrationState calibration = some image) (calls : ℕ) :
    ∃ later, saveVst3StateWithCalibration passes config calibration (some (chunkedStream chunk))
      ⟨[], calls⟩ = some (true, ⟨state ++ image, later⟩) := by
  obtain ⟨between, first⟩ := chunked_writes positive state [] calls
  obtain ⟨later, second⟩ := chunked_writes positive image state between
  have stateRoom : state.length < passes := by
    rw [length_of_encodeState stateEncoded]
    exact stateSize_lt.trans enough
  have imageRoom : image.length < passes := by
    rwa [(encodeCalibrationState_version imageEncoded).1]
  refine ⟨later, ?_⟩
  unfold saveVst3StateWithCalibration
  rw [stateEncoded, imageEncoded]
  dsimp only
  rw [(writeExact_iff stateRoom).mpr first, Option.bind_some]
  exact (writeExact_iff imageRoom).mpr second

include positive in
/-- **A stream of chunks loads what its bytes load.** -/
theorem load_chunked {passes : ℕ} (enough : calibrationStateSize < passes)
    (config : PersistentConfig) (calibration : StringCalibrationBank) (bytes : List Byte)
    (calls : ℕ) :
    ∃ last, loadVst3StateWithCalibration passes (some (chunkedStream chunk)) ⟨bytes, calls⟩ config
      calibration = some (((loadState bytes).isSome, (loadState bytes).getD (config, calibration)),
        last) := by
  cases loads : loadState bytes with
  | some loaded =>
      obtain ⟨between, first⟩ := chunked_reads positive stateSize bytes calls
      obtain ⟨later, second⟩ := chunked_reads positive calibrationStateSize (bytes.drop stateSize)
        between
      have parts : decodeState (bytes.take stateSize) ≠ none ∧
          (bytes.drop stateSize).length ≤ calibrationStateSize := by
        unfold loadState at loads
        obtain ⟨candidate, decoded, rest⟩ := Option.bind_eq_some_iff.mp loads
        refine ⟨Option.ne_none_iff_exists'.mpr ⟨candidate, decoded⟩, ?_⟩
        split_ifs at rest with alone
        · rw [alone]
          exact Nat.zero_le _
        · obtain ⟨bank, calibrated, -⟩ := Option.map_eq_some_iff.mp rest
          exact decodeCalibrationState_length_le calibrated
      obtain ⟨candidate, decoded⟩ := Option.ne_none_iff_exists'.mp parts.1
      rw [List.take_of_length_le parts.2, List.drop_of_length_le parts.2] at second
      have ends := (@chunked_endsAt chunk positive ⟨[], later⟩ ⟨[], later + 1⟩
        (max 1 (calibrationStateSize - (bytes.drop stateSize).length))
        (lt_of_lt_of_le one_pos (le_max_left _ _))).mpr ⟨rfl, rfl⟩
      refine ⟨⟨[], later + 1⟩, (loadVst3StateWithCalibration_iff enough).mpr ⟨_, _, _, rfl,
        ⟨_, _, first, decodeState_length decoded, second, ends⟩, ?_⟩⟩
      rw [List.take_append_drop]
      exact loads
  | none =>
      obtain ⟨⟨⟨accepted, loadedConfig, loadedCalibration⟩, last⟩, outcome⟩ :=
        @loadVst3StateWithCalibration_ends _ _ (some (chunkedStream chunk)) ⟨bytes, calls⟩ config
          calibration enough
      refine ⟨last, outcome.trans ?_⟩
      cases accepted with
      | false =>
          obtain ⟨rfl, rfl⟩ := loadVst3StateWithCalibration_refused outcome
          rfl
      | true =>
          -- the bytes that were delivered are all bytes, and they do not load
          obtain ⟨_, image, rest, same, ⟨next, middle, first, -, second, ends⟩, found⟩ :=
            (loadVst3StateWithCalibration_iff enough).mp outcome
          obtain rfl := Option.some.inj same
          have empty := ((chunked_endsAt positive (lt_of_lt_of_le one_pos (le_max_left _ _))).mp
            ends).1
          have all : bytes = image ++ rest := by
            have whole := chunked_delivers first
            rw [chunked_delivers second, empty, List.append_nil] at whole
            exact whole
          rw [← all, loads] at found
          cases found

end Chunks

/-- What a load answers on any stream. -/
theorem load_anyStream {passes : ℕ} {State : Type} (stream : Option (IBStream State)) (state : State)
    (config : PersistentConfig) (calibration : StringCalibrationBank)
    (enough : calibrationStateSize < passes) :
    ∃ loaded loadedConfig loadedCalibration last,
      loadVst3StateWithCalibration passes stream state config calibration =
        some ((loaded, loadedConfig, loadedCalibration), last) ∧
      (loaded = false → loadedConfig = config ∧ loadedCalibration = calibration) ∧
      (loaded = true ↔ ∃ s image bytes, stream = some s ∧ Streams s state image bytes last ∧
        loadState (image ++ bytes) = some (loadedConfig, loadedCalibration)) := by
  obtain ⟨⟨⟨loaded, loadedConfig, loadedCalibration⟩, last⟩, outcome⟩ :=
    @loadVst3StateWithCalibration_ends _ _ stream state config calibration enough
  refine ⟨loaded, loadedConfig, loadedCalibration, last, outcome, ?_, ?_, fun delivered => ?_⟩
  · rintro rfl
    exact loadVst3StateWithCalibration_refused outcome
  · rintro rfl
    exact (loadVst3StateWithCalibration_iff enough).mp outcome
  · have accepted := (@loadVst3StateWithCalibration_iff _ _ stream state last config loadedConfig
      calibration loadedCalibration enough).mpr delivered
    exact (Prod.mk.inj (Prod.mk.inj (Option.some.inj (outcome.symm.trans accepted))).1).1

/-- Every configuration and bank with an image are saved to a stream of chunks of any positive
sizes, and load again from one, each value on its nearest step; a state image alone loads with
an empty bank. A stream of chunks loads exactly what its bytes load, so a part of what was
saved is refused unless it is the whole state image, and so is anything longer. On a stream of
any kind all loops end; a save succeeds exactly when the stream takes both images, and a load
exactly when calls that succeed with progress in range deliver a string that loads, and then
the end of the stream. A load that is refused leaves its destinations. -/
theorem vst3_state_streams (passes : ℕ) (enough : calibrationStateSize < passes) :
    (∀ config bank state image, encodeState config = some state →
      encodeCalibrationState bank = some image →
      ∃ rounded, (∀ field, HoldsStep rounded (fieldBits config field) field) ∧
        (Canonical config → rounded = config) ∧
        ∀ writes reads : ℕ → ℕ, (∀ call, 0 < writes call) → (∀ call, 0 < reads call) →
        ∀ output outputBank, ∃ written last,
          saveVst3StateWithCalibration passes config bank (some (chunkedStream writes)) {} =
            some (true, written) ∧
          loadVst3StateWithCalibration passes (some (chunkedStream reads))
            { bytes := written.bytes } output outputBank = some ((true, rounded, bank), last)) ∧
    (∀ chunk : ℕ → ℕ, (∀ call, 0 < chunk call) → ∀ output outputBank,
      (∀ bytes, ∃ last,
        loadVst3StateWithCalibration passes (some (chunkedStream chunk)) { bytes } output
          outputBank = some (((loadState bytes).isSome,
            (loadState bytes).getD (output, outputBank)), last)) ∧
      (∀ bytes config, decodeState bytes = some config → ∃ last,
        loadVst3StateWithCalibration passes (some (chunkedStream chunk)) { bytes } output
          outputBank = some ((true, config, {}), last)) ∧
      ∀ config bank state image bytes, encodeState config = some state →
        encodeCalibrationState bank = some image →
        ((∃ count < (state ++ image).length, count ≠ stateSize ∧
            bytes = (state ++ image).take count) ∨
          ∃ excess, excess ≠ [] ∧ bytes = state ++ image ++ excess) → ∃ last,
        loadVst3StateWithCalibration passes (some (chunkedStream chunk)) { bytes } output
          outputBank = some ((false, output, outputBank), last)) ∧
    ∀ (State : Type) (stream : Option (IBStream State)) (state : State) config bank,
      (∃ saved last,
        saveVst3StateWithCalibration passes config bank stream state = some (saved, last) ∧
        (saved = true ↔ ∃ s stateImage calibrationImage middle, stream = some s ∧
          encodeState config = some stateImage ∧
          encodeCalibrationState bank = some calibrationImage ∧
          Writes s state stateImage middle ∧ Writes s middle calibrationImage last)) ∧
      (∃ loaded loadedConfig loadedBank last,
        loadVst3StateWithCalibration passes stream state config bank =
          some ((loaded, loadedConfig, loadedBank), last) ∧
        (loaded = false → loadedConfig = config ∧ loadedBank = bank) ∧
        (loaded = true ↔ ∃ s image bytes, stream = some s ∧ Streams s state image bytes last ∧
          loadState (image ++ bytes) = some (loadedConfig, loadedBank))) ∧
      (∃ saved last, saveVst3State passes config stream state = some (saved, last) ∧
        (saved = true ↔ ∃ s image, stream = some s ∧ encodeState config = some image ∧
          Writes s state image last)) ∧
      ∃ loaded loadedConfig last,
        loadVst3State passes stream state config = some ((loaded, loadedConfig), last) ∧
        (loaded = false → loadedConfig = config) ∧
        (loaded = true → ∃ s image next, stream = some s ∧ Reads s state stateSize image next ∧
          EndsAt s next 1 last ∧ decodeState image = some loadedConfig) := by
  refine ⟨?_, fun chunk positive output outputBank => ⟨fun bytes => ?_, ?_, ?_⟩, ?_⟩
  · intro config bank state image stateEncoded imageEncoded
    obtain ⟨rounded, -, loads, holds, same⟩ := loadState_saved stateEncoded imageEncoded
    refine ⟨rounded, holds, same, fun writes reads writesPositive readsPositive output bank => ?_⟩
    obtain ⟨later, saved⟩ := save_chunked writesPositive enough stateEncoded imageEncoded 0
    obtain ⟨last, loaded⟩ := load_chunked readsPositive enough output bank (state ++ image) 0
    rw [loads] at loaded
    exact ⟨_, last, saved, loaded⟩
  · exact load_chunked positive enough output outputBank bytes 0
  · intro bytes config decoded
    obtain ⟨last, loaded⟩ := load_chunked positive enough output outputBank bytes 0
    rw [loadState_legacy decoded] at loaded
    exact ⟨last, loaded⟩
  · intro config bank state image bytes stateEncoded imageEncoded other
    obtain ⟨last, loaded⟩ := load_chunked positive enough output outputBank bytes 0
    have refused : loadState bytes = none := by
      rcases other with ⟨count, part, inside, rfl⟩ | ⟨excess, more, rfl⟩
      · exact loadState_truncated stateEncoded imageEncoded part inside
      · exact loadState_excess stateEncoded imageEncoded more
    rw [refused] at loaded
    exact ⟨last, loaded⟩
  · intro State stream state config bank
    exact ⟨saveVst3StateWithCalibration_iff enough, load_anyStream stream state config bank enough,
      saveVst3State_iff (stateSize_lt.trans enough), loadVst3State_iff (stateSize_lt.trans enough)⟩

/-- The empty bank has an image. -/
theorem encodes_empty : ∃ image, encodeCalibrationState {} = some image :=
  Option.isSome_iff_exists.mp
    (encodeCalibrationState_isSome.trans (show validBank {} = true by decide +kernel))

/-- An edited configuration and a bank with a detuned partial, written in chunks of one byte and
read in chunks of two; the configuration alone; the first three bytes; and no stream at all. -/
theorem vst3_state_streams_edited : ∃ state image, encodeState editedConfig = some state ∧
    encodeCalibrationState detunedBank = some image ∧
    (∃ written last,
      saveVst3StateWithCalibration 7000 editedConfig detunedBank
          (some (chunkedStream fun _ => 1)) {} = some (true, written) ∧
      loadVst3StateWithCalibration 7000 (some (chunkedStream fun _ => 2))
        { bytes := written.bytes } {} {} = some ((true, editedConfig, detunedBank), last)) ∧
    (∃ last, loadVst3StateWithCalibration 7000 (some (chunkedStream fun _ => 1))
      { bytes := state } {} sharpBank = some ((true, editedConfig, {}), last)) ∧
    (∃ last, loadVst3StateWithCalibration 7000 (some (chunkedStream fun _ => 1))
      { bytes := (state ++ image).take 3 } {} sharpBank = some ((false, {}, sharpBank), last)) ∧
    ∃ loaded loadedConfig last,
      loadVst3State 7000 (none : Option (IBStream StoredStream)) {} {} =
        some ((loaded, loadedConfig), last) := by
  obtain ⟨saves, chunks, any⟩ := vst3_state_streams 7000 (by decide)
  obtain ⟨state, stateEncoded⟩ :=
    Option.isSome_iff_exists.mp (canonical_iff_onSteps.mp canonical_editedConfig).encodes
  obtain ⟨image, imageEncoded⟩ := Option.isSome_iff_exists.mp detunedBank_encodes
  obtain ⟨rounded, -, same, streams⟩ := saves editedConfig detunedBank state image stateEncoded
    imageEncoded
  obtain rfl := same canonical_editedConfig
  obtain ⟨-, legacy, parts⟩ := chunks (fun _ => 1) (fun _ => one_pos) {} sharpBank
  refine ⟨state, image, stateEncoded, imageEncoded,
    streams (fun _ => 1) (fun _ => 2) (fun _ => one_pos) (fun _ => two_pos) _ _,
    legacy state _ (decodeState_of_encoded canonical_editedConfig stateEncoded),
    parts _ detunedBank state image _ stateEncoded imageEncoded (.inl ⟨3, ?_, by decide, rfl⟩), ?_⟩
  · rw [List.length_append, length_of_encodeState stateEncoded]
    exact Nat.lt_add_right _ (by decide)
  · obtain ⟨loaded, loadedConfig, last, outcome, -⟩ := (any StoredStream none {} {} {}).2.2.2
    exact ⟨loaded, loadedConfig, last, outcome⟩

/-- A configuration whose concert pitch lies between two steps. -/
def betweenSteps : PersistentConfig := { a4Hz := 44004 / 100 }

/-- The example's configuration is not canonical, as one value lies between two steps. -/
theorem not_canonical_betweenSteps : ¬ Canonical betweenSteps := by
  intro canonical
  have step := @Canonical.step _ canonical .a4Hz _ rfl
  exact absurd step (by decide +kernel)

/-- A configuration that has an image loads as another one; what was saved loads without its
calibration when it is cut after the state image, and also when the stream reports no progress
there although it holds more. -/
theorem vst3_streams_differ :
    (∃ written last rounded,
      saveVst3StateWithCalibration 7000 betweenSteps {} (some (chunkedStream fun _ => 1)) {} =
        some (true, written) ∧
      loadVst3StateWithCalibration 7000 (some (chunkedStream fun _ => 1))
        { bytes := written.bytes } {} {} = some ((true, rounded, {}), last) ∧
      rounded ≠ betweenSteps) ∧
    ∃ state image, encodeState {} = some state ∧ encodeCalibrationState {} = some image ∧
      (∃ last, loadVst3StateWithCalibration 7000 (some (chunkedStream fun _ => 1))
        { bytes := (state ++ image).take stateSize } {} { calibratedStringMask := 1 } =
          some ((true, {}, {}), last)) ∧
      loadVst3StateWithCalibration 7000
        (some (chunkedStream fun call => if call = 1 then 0 else 184))
        { bytes := state ++ image } {} { calibratedStringMask := 1 } =
          some ((true, {}, {}), { bytes := image, calls := 2 }) := by
  have enough : calibrationStateSize < 7000 := by decide
  have canonical : Canonical {} := canonical_iff_onSteps.mpr onSteps_default
  obtain ⟨state, stateEncoded⟩ :=
    Option.isSome_iff_exists.mp (canonical_iff_onSteps.mp canonical).encodes
  obtain ⟨image, imageEncoded⟩ := encodes_empty
  have long := length_of_encodeState stateEncoded
  have decoded := decodeState_of_encoded canonical stateEncoded
  refine ⟨?_, state, image, stateEncoded, imageEncoded, ?_, ?_⟩
  · obtain ⟨first, firstEncoded⟩ := Option.isSome_iff_exists.mp
      (show (encodeState betweenSteps).isSome = true by decide +kernel)
    obtain ⟨rounded, decodes, loads, -⟩ := loadState_saved firstEncoded imageEncoded
    obtain ⟨later, saved⟩ := save_chunked (fun _ => one_pos) enough firstEncoded imageEncoded 0
    obtain ⟨last, loaded⟩ := load_chunked (fun _ => one_pos) enough {} {} (first ++ image) 0
    rw [loads] at loaded
    refine ⟨_, last, rounded, saved, loaded, ?_⟩
    rintro rfl
    exact not_canonical_betweenSteps (canonical_iff_onSteps.mpr (decodeState_onSteps decodes))
  · obtain ⟨last, loaded⟩ := load_chunked (fun _ => one_pos) enough {}
      { calibratedStringMask := 1 } state 0
    rw [loadState_legacy decoded] at loaded
    rw [← long, List.take_left]
    exact ⟨last, loaded⟩
  · have answers : (chunkedStream fun call => if call = 1 then 0 else 184).read
        ⟨state ++ image, 0⟩ stateSize =
          ({ result := kResultOk, count := stateSize, buffer := state }, ⟨image, 1⟩) := by
      have count : min 184 (min stateSize (state ++ image).length) = stateSize := by
        rw [List.length_append, long, min_eq_left (Nat.le_add_right _ _)]
        rfl
      unfold chunkedStream
      dsimp only
      rw [if_neg zero_ne_one, count, List.take_left' long, List.drop_left' long]
    have reads := Reads.call answers (progressed_chunk (by decide) le_rfl state) (.done _ _)
    rw [bytes_of_full (by rw [long]; rfl), List.append_nil] at reads
    refine (loadVst3StateWithCalibration_iff enough).mpr ⟨_, state, [], rfl,
      ⟨⟨image, 1⟩, ⟨image, 1⟩, reads, long, .done _ _, _, rfl, rfl, rfl⟩, ?_⟩
    · rw [List.append_nil]
      exact loadState_legacy decoded

end M3Midi
