import M3Midi.Detector.Configuration
import M3Midi.Foundation.LeastSquares
import M3Midi.Foundation.MaskSweep
import Mathlib.Algebra.Order.Monoid.WithTop

/-! # The classifier of unisons

The spectrum of a note is fitted by the templates of the strings that may sound it. Every
mask of strings within the bounds is tried; the best fit is reported, and how far the next
one is behind. Numbers are those of an ordered field, the square root is a parameter, and
numbers that are not finite are absent.
-/

namespace M3Midi

open Foundation

/-- Three harmonics at thirty-four offsets each. -/
def unisonSpectralFeatureCount : ℕ := 3 * 34

/-- `UnisonSpectralFingerprint`: the features of a spectrum, absent where they are not finite. -/
abbrev UnisonSpectralFingerprint (Number : Type) :=
  Fin unisonSpectralFeatureCount → Option Number

/-- `UnisonSpectralTemplateSet`: a fingerprint for each string, and which of them are there. -/
structure UnisonSpectralTemplateSet (Number : Type) where
  fingerprint : Fin maxVoices → UnisonSpectralFingerprint Number
  validMask : BitVec 8

namespace UnisonClassifier

variable {Number : Type} [Field Number] [LinearOrder Number]

/-- `kPivotFloor`, below which a pivot counts as zero. -/
def pivotFloor : Number := 1 / (10 ^ 12 : ℕ)

/-- `kPositiveWeightFloor`, below which a weight counts as none. -/
def positiveWeightFloor : Number := 1 / (10 ^ 9 : ℕ)

/-- `kMaximumUnisonMembers` -/
def maximumUnisonMembers : ℕ := 4

/-- Every feature is finite and not negative. -/
def finiteNonnegative (value : UnisonSpectralFingerprint Number) : Bool :=
  (List.finRange unisonSpectralFeatureCount).all fun feature =>
    match value feature with
    | none => false
    | some amount => 0 ≤ amount

/-- The features as numbers. -/
def features (value : UnisonSpectralFingerprint Number)
    (feature : Fin unisonSpectralFeatureCount) : Number :=
  (value feature).getD 0

/-- The largest feature so far, and the sum of the squares in its units. -/
def scaled (state : Number × Number) (feature : Number) : Number × Number :=
  if feature = 0 then state
  else if state.1 < feature then
    (feature, 1 + state.2 * (state.1 / feature) * (state.1 / feature))
  else (state.1, state.2 + feature / state.1 * (feature / state.1))

/-- The norm of a fingerprint, computed in units of its greatest feature. -/
def stableL2Norm (sqrt : Number → Number) (value : UnisonSpectralFingerprint Number) : Number :=
  let sum := ((List.finRange unisonSpectralFeatureCount).map (features value)).foldl scaled (0, 1)
  if sum.1 = 0 then 0 else sum.1 * sqrt sum.2

/-- The strings of a mask, in their order. -/
def members (mask : BitVec 8) : List (Fin maxVoices) :=
  (List.finRange maxVoices).filter fun string => mask.getLsbD string

/-- The set bits lie side by side: shifted down to the lowest one they are all below the count. -/
def consecutiveMask (mask : BitVec 8) (count : ℕ) : Bool :=
  match (List.range 8).find? fun bit => mask.getLsbD bit with
  | none => false
  | some lowest => count ≠ 0 && mask >>> lowest = (1 <<< count) - 1

/-- What a classification reports. Errors may be infinite, which stands for no fit at all. -/
structure Classification (Number : Type) where
  weights : Fin maxVoices → Number
  error : WithTop Number
  runnerUpError : WithTop Number
  posteriorMargin : WithTop Number
  memberMask : BitVec 8
  memberCount : ℕ
  valid : Bool

/-- The classification of nothing (`{}`). -/
def Classification.invalid : Classification Number where
  weights _ := 0
  error := 0
  runnerUpError := 0
  posteriorMargin := 0
  memberMask := 0
  memberCount := 0
  valid := false

/-- What `classify` is given. The numbers may be those of any ordered field, and the root is a
parameter. -/
structure Query (Number : Type) where
  observed : UnisonSpectralFingerprint Number
  templates : UnisonSpectralTemplateSet Number
  playableMask : BitVec 8
  minimumMemberCount : ℕ
  maximumMemberCount : ℕ
  consecutiveOnly : Bool

namespace Query

variable (query : Query Number) (sqrt : Number → Number)

/-- The checks of `classify` on its arguments. -/
def accepted : Bool :=
  1 ≤ query.minimumMemberCount && query.minimumMemberCount ≤ query.maximumMemberCount &&
    query.maximumMemberCount ≤ maximumUnisonMembers && query.maximumMemberCount ≤ maxVoices &&
    finiteNonnegative query.observed && stableL2Norm sqrt query.observed ≠ 0

/-- The checks on a mask, before its templates are looked at. -/
def considers (mask : BitVec 8) : Bool :=
  let count := LaneMask.count mask
  query.minimumMemberCount ≤ count && count ≤ query.maximumMemberCount &&
    query.playableMask &&& query.templates.validMask &&& mask = mask &&
    (!query.consecutiveOnly || consecutiveMask mask count)

/-- The norm of a string's template. -/
def templateNorm (string : Fin maxVoices) : Number :=
  stableL2Norm sqrt (query.templates.fingerprint string)

/-- The templates of the strings, normalised. -/
def columns (mask : BitVec 8) (member : Fin (members mask).length)
    (feature : Fin unisonSpectralFeatureCount) : Number :=
  let string := (members mask).get member
  features (query.templates.fingerprint string) feature / query.templateNorm sqrt string

/-- The observation, normalised. -/
def target (feature : Fin unisonSpectralFeatureCount) : Number :=
  features query.observed feature / stableL2Norm sqrt query.observed

/-- The weights that `solve` finds for the normalised templates. -/
def normalizedWeights (mask : BitVec 8) : Option (Fin (members mask).length → Number) :=
  (LeastSquares.normalSystem (query.columns sqrt mask) (query.target sqrt)).solve pivotFloor

/-- The weights in the units of the observation. -/
def rawWeights (mask : BitVec 8) (weights : Fin (members mask).length → Number) :
    Fin maxVoices → Number :=
  (List.finRange (members mask).length).foldl (fun raw member =>
    let string := (members mask).get member
    Function.update raw string
      (weights member * stableL2Norm sqrt query.observed / query.templateNorm sqrt string))
    fun _ => 0

/-- The error and the weights of a mask, when its templates can be fitted. The normal equations are
solved, and all weights have to be above the floor. -/
def fit (mask : BitVec 8) : Option (Number × (Fin maxVoices → Number)) :=
  if ∀ string ∈ members mask, finiteNonnegative (query.templates.fingerprint string) = true ∧
      0 < query.templateNorm sqrt string then
    match query.normalizedWeights sqrt mask with
    | none => none
    | some weights =>
        if ∃ member, weights member ≤ positiveWeightFloor then none
        else
          some (LeastSquares.squaredError (query.columns sqrt mask) (query.target sqrt) weights,
            query.rawWeights sqrt mask weights)
  else none

/-- One turn of the loop over the masks. A mask that fits takes its place in the ranking, by its
error. -/
def consider (best : Classification Number) (mask : BitVec 8) : Classification Number :=
  if query.considers mask then
    match query.fit sqrt mask with
    | none => best
    | some (error, weights) =>
        if best.valid = false ∨ error < best.error ∨
            error = best.error ∧ mask.toNat < best.memberMask.toNat then
          { weights, error
            runnerUpError := min best.runnerUpError best.error
            posteriorMargin := 0
            memberMask := mask
            memberCount := LaneMask.count mask
            valid := true }
        else { best with runnerUpError := min best.runnerUpError error }
  else best

/-- The masks from one on, one after the other. -/
def search : Classification Number :=
  (MaskSweep.allMasks 8).tail.foldl (query.consider sqrt)
    { (Classification.invalid : Classification Number) with
      error := ⊤, runnerUpError := ⊤, posteriorMargin := ⊤ }

/-- `classify`: the best of all considered masks, with how far it leads. -/
def classify : Classification Number :=
  let best := query.search sqrt
  if query.accepted sqrt then
    if best.valid then
      { best with posteriorMargin := best.runnerUpError.map (· - best.error.untopD 0) }
    else .invalid
  else .invalid

end Query

end UnisonClassifier

end M3Midi
