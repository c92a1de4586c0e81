import Taramandal.Core.Floats
import Taramandal.Core.Mission
import Taramandal.Gcs.Blackbox
import Taramandal.Lib.Binary32

/-! # The fast telemetry frame (`telemetry_codec.py`, `telemetry.js`)

The encoder packs thirteen single-precision floats for each drone, in the order of the
ids; the decoder knows the same layout by heart, and counts drones by the length of the
frame. What it finds for a drone is what the drone's own record holds, rounded
(`FastDrone.of`). A table with a number that single precision cannot hold has no frame. -/
set_option linter.unusedSectionVars false

namespace Taramandal.Gcs.TelemetryCodec

open Core.Numbers Core.Floats Core.Values Core.Text Core.Mission Core.Packing Gcs.Blackbox
open Lib.Binary32 Lib.Check Lib.Dict

variable {K : Type} [Field K] [LinearOrder K]

def fastFields : List String :=
  ["fleet_x", "fleet_y", "fleet_z", "local_x", "local_y", "local_z", "heading", "armed",
    "connected", "planned_x", "planned_y", "planned_z", "planned_valid"]

def floatsPerDrone : Nat := fastFields.length

section

variable (tel : PyDict K)

/-- `float(tel.get(field, 0.0))`. -/
def number (field : String) : Except String (PyVal K) :=
  toFloat ((find tel field).getD (.float 0))

/-- `1.0 if tel.get(field) else 0.0`. -/
def flag (field : String) : PyVal K :=
  if (find tel field).any truthy then .float 1 else .float 0

/-- What is appended to `values` for one drone. -/
def fastEntries : List (Except String (PyVal K)) :=
  [number tel "fleet_x", number tel "fleet_y", number tel "fleet_z", number tel "local_x",
    number tel "local_y", number tel "local_z", number tel "heading", .ok (flag tel "armed"),
    .ok (flag tel "connected"), number tel "planned_x", number tel "planned_y",
    number tel "planned_z", .ok (flag tel "planned_valid")]

def fastRow : Except String (List (PyVal K)) := (fastEntries tel).mapM id

end

section

variable [IsStrictOrderedRing K] [FloorRing K]

def signed : Bool → Nat → Nat
  | true, magnitude => magnitude + 2 ^ 31
  | false, magnitude => magnitude

/-- One `f` of `struct.pack`, little-endian. -/
def packFloat : PyVal K → Except String Bytes
  | .float x =>
    if infinity ≤ bits roundHalfEven |x| then .error "float too large to pack with f format"
    else .ok (packLE 4 (signed (x < 0) (bits roundHalfEven |x|)))
  | .inf negative => .ok (packLE 4 (signed negative infinity))
  | .nan => .ok (packLE 4 (signed false (infinity + 2 ^ 22)))
  | _ => .error "required argument is not a float"

def encodeFastFrame (telemetry : Dict ℤ (PyDict K)) : Except String Bytes := do
  let values ← (sortedIds telemetry).mapM fun i => fastRow ((find telemetry i).getD [])
  let packed ← values.flatten.mapM packFloat
  return packed.flatten

end

/-! ## The decoder -/

def float32Of (bs : Bytes) : Double K :=
  let n := unpackLE bs
  if n / 2 ^ 23 % 256 = 255 then if n % 2 ^ 23 = 0 then .inf (n / 2 ^ 31 = 1) else .nan
  else .finite (if n / 2 ^ 31 = 1 then -value (n % 2 ^ 31) else value (n % 2 ^ 31))

/-- `new Float32Array(buffer)`; it throws if the buffer ends inside a float. -/
def float32Array (buffer : Bytes) : Option (List (Double K)) :=
  if buffer.length % 4 = 0 then
    some ((List.range (buffer.length / 4)).map fun k => float32Of (slice buffer (4 * k) 4))
  else none

/-- What a frame says of a drone. -/
structure FastDrone (K : Type) where
  fleetX : Double K
  fleetY : Double K
  fleetZ : Double K
  localX : Double K
  localY : Double K
  localZ : Double K
  heading : Double K
  armed : Bool
  connected : Bool
  plannedX : Double K
  plannedY : Double K
  plannedZ : Double K
  plannedValid : Bool

/-- `x !== 0`. -/
def nonzero : Double K → Bool
  | .finite x => x ≠ 0
  | _ => true

/-- The object of the drone whose floats start at `base`. -/
def decodeDrone (floats : List (Double K)) (base : Nat) : FastDrone K where
  fleetX := floats.getD base .nan
  fleetY := floats.getD (base + 1) .nan
  fleetZ := floats.getD (base + 2) .nan
  localX := floats.getD (base + 3) .nan
  localY := floats.getD (base + 4) .nan
  localZ := floats.getD (base + 5) .nan
  heading := floats.getD (base + 6) .nan
  armed := nonzero (floats.getD (base + 7) .nan)
  connected := nonzero (floats.getD (base + 8) .nan)
  plannedX := floats.getD (base + 9) .nan
  plannedY := floats.getD (base + 10) .nan
  plannedZ := floats.getD (base + 11) .nan
  plannedValid := nonzero (floats.getD (base + 12) .nan)

def decodeFastFrame (buffer : Bytes) : Option (List (FastDrone K)) := do
  let floats ← float32Array buffer
  return (List.range (floats.length / floatsPerDrone)).map fun i =>
    decodeDrone floats (i * floatsPerDrone)

/-- `decodeFastFrameInto`: what `out` holds behind it, and the count it returns. -/
def decodeFastFrameInto (buffer : Bytes) (out : List (Double K)) :
    Option (List (Double K) × Nat) := do
  let floats ← float32Array buffer
  let n := min (floats.length / floatsPerDrone) (out.length / floatsPerDrone)
  return (floats.take (n * floatsPerDrone) ++ out.drop (n * floatsPerDrone), n)

section

variable [IsStrictOrderedRing K] [FloorRing K]

def rounded : PyVal K → Double K
  | .float x =>
    .finite (if x < 0 then -roundMagnitude roundHalfEven |x| else roundMagnitude roundHalfEven |x|)
  | .inf negative => .inf negative
  | _ => .nan

def Fits : PyVal K → Prop
  | .float x => (roundMagnitude roundHalfEven |x| : K) < 2 ^ 128
  | .inf _ => True
  | .nan => True
  | _ => False

variable {v : PyVal K}

lemma packFloat_isOk_iff : (∃ bs, packFloat v = .ok bs) ↔ Fits v := by
  cases v with
  | float x =>
    rw [Fits, ← value_bits abs_roundHalfEven_sub_le (abs_nonneg x), value_lt_iff, packFloat]
    split_ifs with hlarge
    · exact iff_of_false (fun ⟨_, h⟩ => nomatch h) (not_lt.mpr hlarge)
    · exact iff_of_true ⟨_, rfl⟩ (not_le.mp hlarge)
  | inf negative => exact iff_of_true ⟨_, rfl⟩ trivial
  | nan => exact iff_of_true ⟨_, rfl⟩ trivial
  | _ => exact iff_of_false (fun ⟨_, h⟩ => nomatch h) not_false

lemma float32Of_packLE {negative : Bool} {n : Nat} (h : n < 2 ^ 31) :
    (float32Of (packLE 4 (signed negative n)) : Double K) =
      if n / 2 ^ 23 = 255 then if n % 2 ^ 23 = 0 then .inf negative else .nan
      else .finite (if negative then -value n else value n) := by
  have hread : unpackLE (packLE 4 (signed negative n)) = signed negative n := by
    refine unpackLE_packLE ?_
    cases negative <;> (simp only [signed]; omega)
  unfold float32Of
  rw [hread]
  have hexp : signed negative n / 2 ^ 23 % 256 = n / 2 ^ 23 := by
    cases negative <;> (simp only [signed]; omega)
  have hfraction : signed negative n % 2 ^ 23 = n % 2 ^ 23 := by
    cases negative <;> simp only [signed]
    omega
  have hmagnitude : signed negative n % 2 ^ 31 = n := by
    cases negative <;> (simp only [signed]; omega)
  have hsign : signed negative n / 2 ^ 31 = 1 ↔ negative = true := by
    cases negative with
    | false => exact iff_of_false (by simp only [signed]; omega) Bool.false_ne_true
    | true => exact iff_of_true (by simp only [signed]; omega) rfl
  simp only [hexp, hfraction, hmagnitude, hsign, Bool.decide_eq_true]

lemma float32Of_packFloat {bs : Bytes} (h : packFloat v = .ok bs) :
    bs.length = 4 ∧ float32Of bs = rounded v := by
  cases v with
  | float x =>
    rw [packFloat] at h
    split_ifs at h with hlarge
    obtain rfl := Except.ok.inj h
    have hfinite : bits roundHalfEven |x| < infinity := not_le.mp hlarge
    unfold infinity at hfinite
    refine ⟨length_packLE 4 _, ?_⟩
    rw [float32Of_packLE (by omega), if_neg (by omega), rounded,
      ← value_bits abs_roundHalfEven_sub_le (abs_nonneg x)]
    simp only [decide_eq_true_eq]
  | inf negative =>
    obtain rfl := Except.ok.inj h
    exact ⟨length_packLE 4 _, float32Of_packLE (by norm_num [infinity])⟩
  | nan =>
    obtain rfl := Except.ok.inj h
    exact ⟨length_packLE 4 _, float32Of_packLE (by norm_num [infinity])⟩
  | _ => cases h

end

/-! ## One frame -/

lemma float32Array_flatten {blocks : List Bytes} (h : ∀ bs ∈ blocks, bs.length = 4) :
    float32Array blocks.flatten = some (blocks.map (float32Of : Bytes → Double K)) := by
  have hlengths : blocks.map List.length = List.replicate blocks.length 4 :=
    List.eq_replicate_iff.mpr ⟨List.length_map _, fun n hn => by
      obtain ⟨bs, hbs, rfl⟩ := List.mem_map.mp hn
      exact h bs hbs⟩
  have hlength : blocks.flatten.length = 4 * blocks.length := by
    rw [List.length_flatten, hlengths, List.sum_replicate, smul_eq_mul, Nat.mul_comm]
  rw [float32Array, if_pos (by omega), hlength, Nat.mul_div_cancel_left _ (by norm_num)]
  refine congrArg some (List.ext_getElem (by simp) fun k hk _ => ?_)
  have hk' : k < blocks.length := by simpa using hk
  have hstart : ((blocks.map List.length).take k).sum = 4 * k := by
    rw [hlengths, List.take_replicate, List.sum_replicate, smul_eq_mul, Nat.mul_comm,
      Nat.min_eq_left hk'.le]
  have hblock := slice_flatten (List.getElem?_eq_getElem hk') hstart (h _ (List.getElem_mem hk')) []
  rw [List.append_nil] at hblock
  simp [hblock]

section Rows

variable [IsStrictOrderedRing K] [FloorRing K]

/-- The float of an entry that does not raise, as the frame carries it. -/
def carried : Except String (PyVal K) → Double K
  | .ok v => rounded v
  | .error _ => .nan

def reading (tel : PyDict K) (field : String) : Double K := carried (number tel field)

/-- What a frame is to say of a drone: its own values, and the truth of its own flags. -/
def FastDrone.of (tel : PyDict K) : FastDrone K where
  fleetX := reading tel "fleet_x"
  fleetY := reading tel "fleet_y"
  fleetZ := reading tel "fleet_z"
  localX := reading tel "local_x"
  localY := reading tel "local_y"
  localZ := reading tel "local_z"
  heading := reading tel "heading"
  armed := (find tel "armed").any truthy
  connected := (find tel "connected").any truthy
  plannedX := reading tel "planned_x"
  plannedY := reading tel "planned_y"
  plannedZ := reading tel "planned_z"
  plannedValid := (find tel "planned_valid").any truthy

def numberFields : List String :=
  ["fleet_x", "fleet_y", "fleet_z", "local_x", "local_y", "local_z", "heading", "planned_x",
    "planned_y", "planned_z"]

/-- `float()` takes the numbers of the drone, and single precision can hold them. -/
def Packable (tel : PyDict K) : Prop :=
  ∀ field ∈ numberFields, ∃ v, number tel field = .ok v ∧ Fits v

def floatsOf (tel : PyDict K) : List (Double K) := (fastEntries tel).map carried

@[simp] lemma length_floatsOf (tel : PyDict K) : (floatsOf tel).length = floatsPerDrone := rfl

lemma roundMagnitude_zero : (roundMagnitude roundHalfEven (0 : K)) = 0 := by
  have hround : roundMagnitude roundHalfEven (value 0 : K) = value 0 :=
    roundMagnitude_value abs_roundHalfEven_sub_le 0
  have hzero : (value 0 : K) = 0 := by simp [value]
  rwa [hzero] at hround

lemma roundMagnitude_one : (roundMagnitude roundHalfEven (1 : K)) = 1 := by
  have hround : roundMagnitude roundHalfEven (value (127 * 2 ^ 23) : K) = value (127 * 2 ^ 23) :=
    roundMagnitude_value abs_roundHalfEven_sub_le _
  have hone : (value (127 * 2 ^ 23) : K) = 1 := by norm_num [value]
  rwa [hone] at hround

lemma rounded_zero : rounded (.float (0 : K)) = .finite 0 := by
  simp [rounded, roundMagnitude_zero]

lemma rounded_one : rounded (.float (1 : K)) = .finite 1 := by
  simp [rounded, roundMagnitude_one]

lemma fits_flag (tel : PyDict K) (field : String) : Fits (flag tel field) := by
  rw [flag]
  split_ifs
  · norm_num [Fits, roundMagnitude_one]
  · norm_num [Fits, roundMagnitude_zero]

lemma nonzero_flag (tel : PyDict K) (field : String) :
    nonzero (carried (.ok (flag tel field))) = (find tel field).any truthy := by
  rw [carried, flag]
  cases (find tel field).any truthy with
  | true =>
    rw [if_pos rfl, rounded_one]
    simp [nonzero]
  | false =>
    rw [if_neg Bool.false_ne_true, rounded_zero]
    simp [nonzero]

lemma decodeDrone_floatsOf (tel : PyDict K) (rest : List (Double K)) :
    decodeDrone (floatsOf tel ++ rest) 0 = FastDrone.of tel := by
  have harmed := nonzero_flag tel "armed"
  have hconnected := nonzero_flag tel "connected"
  have hvalid := nonzero_flag tel "planned_valid"
  unfold FastDrone.of
  rw [← harmed, ← hconnected, ← hvalid]
  rfl

lemma decodeDrone_drop (floats : List (Double K)) (base : Nat) :
    decodeDrone floats base = decodeDrone (floats.drop base) 0 := by
  simp only [decodeDrone, List.getD_eq_getElem?_getD, List.getElem?_drop, Nat.zero_add,
    Nat.add_zero]

variable {i : Nat} {telemetry : Dict ℤ (PyDict K)}

lemma sum_take_lengths (rows : List (PyDict K)) (h : i ≤ rows.length) :
    (((rows.map floatsOf).map List.length).take i).sum = i * floatsPerDrone := by
  have hlengths : (rows.map floatsOf).map List.length =
      List.replicate rows.length floatsPerDrone := by
    rw [List.map_map, ← List.map_const']
    rfl
  rw [hlengths, List.take_replicate, Nat.min_eq_left h, List.sum_replicate, smul_eq_mul]

lemma length_flatten_floatsOf (rows : List (PyDict K)) :
    (rows.map floatsOf).flatten.length = rows.length * floatsPerDrone := by
  have hall := sum_take_lengths rows le_rfl
  rwa [List.take_of_length_le (by simp), ← List.length_flatten] at hall

lemma decode_flatten_floatsOf {rows : List (PyDict K)} (h : i < rows.length) :
    decodeDrone (rows.map floatsOf).flatten (i * floatsPerDrone) = FastDrone.of rows[i] := by
  rw [decodeDrone_drop, ← sum_take_lengths rows h.le, List.drop_sum_flatten, ← List.map_drop,
    List.drop_eq_getElem_cons h, List.map_cons, List.flatten_cons, decodeDrone_floatsOf]

/-! ## The whole frame -/

lemma packable_iff {tel : PyDict K} :
    Packable tel ↔ ∀ e ∈ fastEntries tel, ∃ v, e = .ok v ∧ Fits v := by
  have hflag : ∀ field, ∃ v, (.ok (flag tel field) : Except String (PyVal K)) = .ok v ∧ Fits v :=
    fun field => ⟨_, rfl, fits_flag tel field⟩
  simp only [Packable, numberFields, fastEntries, List.mem_cons, List.not_mem_nil, or_false,
    forall_eq_or_imp, forall_eq, hflag, true_and, and_true]

lemma map_rounded_of_fastRow {tel : PyDict K} {row : List (PyVal K)}
    (h : fastRow tel = .ok row) : row.map rounded = floatsOf tel := by
  refine map_of_mapM h ?_
  rintro e v rfl
  rfl

section

variable (telemetry : Dict ℤ (PyDict K))

def fastRows : List (PyDict K) :=
  (sortedIds telemetry).map fun i => (find telemetry i).getD []

lemma encodeFastFrame_eq : encodeFastFrame telemetry = (do
      let values ← (fastRows telemetry).mapM fastRow
      let packed ← values.flatten.mapM packFloat
      return packed.flatten) := by
  rw [encodeFastFrame, fastRows, List.mapM_map]
  rfl

lemma encodeFastFrame_isOk_iff :
    (∃ bytes, encodeFastFrame telemetry = .ok bytes) ↔ ∀ tel ∈ fastRows telemetry, Packable tel := by
  rw [encodeFastFrame_eq]
  constructor
  · rintro ⟨bytes, h⟩ tel htel
    obtain ⟨values, hvalues, h⟩ := bind_eq_ok.mp h
    obtain ⟨packed, hpacked, -⟩ := bind_eq_ok.mp h
    obtain ⟨row, hrow, hone⟩ := exists_of_mapM hvalues htel
    refine packable_iff.mpr fun e he => ?_
    obtain ⟨v, hv, hev⟩ := exists_of_mapM hone he
    obtain ⟨bs, -, hbs⟩ := exists_of_mapM hpacked (List.mem_flatten.mpr ⟨row, hrow, hv⟩)
    exact ⟨v, hev, packFloat_isOk_iff.mp ⟨bs, hbs⟩⟩
  · intro h
    have hrows : ∀ tel ∈ fastRows telemetry, ∃ row, fastRow tel = .ok row := fun tel htel =>
      mapM_isOk fun e he => (packable_iff.mp (h tel htel) e he).imp fun v hv => hv.1
    obtain ⟨values, hvalues⟩ := mapM_isOk hrows
    have hfits : ∀ v ∈ values.flatten, ∃ bs, packFloat v = .ok bs := by
      intro v hv
      obtain ⟨row, hrow, hv⟩ := List.mem_flatten.mp hv
      obtain ⟨tel, htel, hone⟩ := exists_of_mem_mapM hvalues hrow
      obtain ⟨e, he, hev⟩ := exists_of_mem_mapM hone hv
      obtain ⟨v', hev', hfits⟩ := packable_iff.mp (h tel htel) e he
      obtain rfl := Except.ok.inj (hev.symm.trans hev')
      exact packFloat_isOk_iff.mpr hfits
    obtain ⟨packed, hpacked⟩ := mapM_isOk hfits
    exact ⟨packed.flatten, bind_eq_ok.mpr ⟨values, hvalues, bind_eq_ok.mpr ⟨packed, hpacked, rfl⟩⟩⟩

end

lemma float32Array_encodeFastFrame {bytes : Bytes} (h : encodeFastFrame telemetry = .ok bytes) :
    float32Array bytes = some ((fastRows telemetry).map floatsOf).flatten := by
  rw [encodeFastFrame_eq] at h
  obtain ⟨values, hvalues, h⟩ := bind_eq_ok.mp h
  obtain ⟨packed, hpacked, h⟩ := bind_eq_ok.mp h
  obtain rfl := Except.ok.inj h
  have hlengths : ∀ bs ∈ packed, bs.length = 4 := by
    intro bs hbs
    obtain ⟨v, -, hv⟩ := exists_of_mem_mapM hpacked hbs
    exact (float32Of_packFloat hv).1
  have hreads : packed.map float32Of = values.flatten.map rounded :=
    map_of_mapM hpacked fun v bs hv => (float32Of_packFloat hv).2
  have hrows : values.map (List.map rounded) = (fastRows telemetry).map floatsOf :=
    map_of_mapM hvalues fun tel row hrow => map_rounded_of_fastRow hrow
  rw [float32Array_flatten hlengths, hreads, List.map_flatten, hrows]

/-- The ids `0` to `n - 1`, in any order, sorted. -/
lemma sortedIds_of_perm {n : Nat}
    (hkeys : (telemetry.map Prod.fst).Perm ((List.range n).map Nat.cast)) :
    sortedIds telemetry = (List.range n).map Nat.cast := by
  refine ((List.perm_insertionSort _ _).trans hkeys).eq_of_pairwise' 
    (List.pairwise_insertionSort _ _) ?_
  rw [List.pairwise_map]
  exact List.pairwise_le_range.imp fun h => Int.ofNat_le.mpr h

lemma reading_of_missing {tel : PyDict K} {field : String} (h : find tel field = none) :
    reading tel field = .finite 0 := by
  rw [reading, number, h, Option.getD_none]
  exact rounded_zero

/-- No single-precision number is nearer to a number than the one that is carried. -/
lemma reading_nearest {tel : PyDict K} {field : String} {x : K}
    (h : number tel field = .ok (.float x)) :
    ∃ y, reading tel field = .finite y ∧
      ∀ m, |y - x| ≤ |value m - x| ∧ |y - x| ≤ |-value m - x| := by
  refine ⟨_, by rw [reading, h, carried, rounded], fun m => ?_⟩
  set r := roundMagnitude roundHalfEven |x|
  have hnear : |r - abs x| ≤ |value m - abs x| :=
    abs_roundMagnitude_sub_le abs_roundHalfEven_sub_le (abs_nonneg x) m
  have hsigned : |(if x < 0 then -r else r) - x| = |r - abs x| := by
    split_ifs with hneg
    · rw [abs_of_neg hneg, ← abs_neg]
      congr 1
      ring
    · rw [abs_of_nonneg (not_lt.mp hneg)]
  have hvalue : |(value m : K)| = value m := abs_of_nonneg (value_nonneg m)
  rw [hsigned]
  constructor
  · calc |r - abs x| ≤ |abs (value m) - abs x| := by rwa [hvalue]
      _ ≤ |value m - x| := abs_abs_sub_abs_le_abs_sub _ _
  · calc |r - abs x| ≤ |abs (-value m) - abs x| := by rwa [abs_neg, hvalue]
      _ ≤ |-value m - x| := abs_abs_sub_abs_le_abs_sub _ _

/-- The record of drone `i`. -/
def recordOf (telemetry : Dict ℤ (PyDict K)) (i : Nat) : PyDict K := (find telemetry i).getD []

/-- The table of a fleet whose ids are `0` to `n - 1`: it has a frame exactly if every
number of it can be packed, and then both decoders find in it, for the drones they have
room for, what the drones' own records hold. -/
theorem fast_frame_agrees {telemetry : Dict ℤ (PyDict K)} {n : Nat}
    (hkeys : (telemetry.map Prod.fst).Perm ((List.range n).map Nat.cast)) :
    ((∃ bytes, encodeFastFrame telemetry = .ok bytes) ↔
      ∀ i < n, Packable (recordOf telemetry i)) ∧
    (∀ bytes, encodeFastFrame telemetry = .ok bytes →
      decodeFastFrame bytes =
        some ((List.range n).map fun i => FastDrone.of (recordOf telemetry i)) ∧
      ∀ out : List (Double K), ∀ m, m = min n (out.length / floatsPerDrone) →
        decodeFastFrameInto bytes out = some (
          ((List.range m).map fun i => floatsOf (recordOf telemetry i)).flatten ++
            out.drop (m * floatsPerDrone), m)) ∧
    (∀ (tel : PyDict K) field, find tel field = none → reading tel field = .finite 0) ∧
    ∀ (tel : PyDict K) field x, number tel field = .ok (.float x) →
      ∃ y, reading tel field = .finite y ∧
        ∀ m, |y - x| ≤ |value m - x| ∧ |y - x| ≤ |-value m - x| := by
  have hrows : fastRows telemetry = (List.range n).map (recordOf telemetry) := by
    rw [fastRows, sortedIds_of_perm hkeys, List.map_map]
    rfl
  have hn : (fastRows telemetry).length = n := by rw [hrows, List.length_map, List.length_range]
  refine ⟨?_, fun bytes hbytes => ?_, fun tel field h => reading_of_missing h,
    fun tel field x h => reading_nearest h⟩
  · rw [encodeFastFrame_isOk_iff, hrows]
    simp only [List.mem_map, List.mem_range, forall_exists_index, and_imp, forall_apply_eq_imp_iff₂]
  · have hfloats := float32Array_encodeFastFrame hbytes
    have hlength := length_flatten_floatsOf (fastRows telemetry)
    have hcount : ((fastRows telemetry).map floatsOf).flatten.length / floatsPerDrone = n := by
      rw [hlength, hn, Nat.mul_div_cancel _ (by decide)]
    constructor
    · rw [decodeFastFrame, hfloats]
      refine congrArg some ?_
      rw [hcount]
      refine List.map_congr_left fun i hi => ?_
      have hi' : i < (fastRows telemetry).length := hn ▸ List.mem_range.mp hi
      rw [decode_flatten_floatsOf hi']
      congr 1
      simp [hrows]
    · rintro out m rfl
      set m := min n (out.length / floatsPerDrone)
      have hm : m ≤ (fastRows telemetry).length := hn ▸ Nat.min_le_left _ _
      have htake : ((fastRows telemetry).map floatsOf).flatten.take (m * floatsPerDrone) =
          ((List.range m).map fun i => floatsOf (recordOf telemetry i)).flatten := by
        rw [← sum_take_lengths _ hm, List.take_sum_flatten, ← List.map_take, hrows,
          ← List.map_take, List.take_range, List.map_map, Nat.min_eq_left (Nat.min_le_left ..)]
        rfl
      rw [decodeFastFrameInto, hfloats, ← htake]
      dsimp only [Option.bind_eq_bind, Option.bind_some]
      rw [hcount]
      rfl

/-- Two drones, the second one first, with a field missing. -/
def twoDrones : Dict ℤ (PyDict ℚ) :=
  [(1, [("fleet_x", .float 12), ("armed", .bool true)]), (0, [("heading", .int 90)])]

theorem fast_frame_agrees_two_drones : ∃ bytes, encodeFastFrame twoDrones = .ok bytes ∧
    decodeFastFrame bytes =
      some ((List.range 2).map fun i => FastDrone.of (recordOf twoDrones i)) := by
  obtain ⟨bytes, hbytes, -⟩ : ∃ bytes ∈ (encodeFastFrame twoDrones).toOption, True := by
    decide +kernel
  have hframe := ok_of_toOption hbytes
  exact ⟨bytes, hframe, ((fast_frame_agrees (by decide)).2.1 bytes hframe).1⟩

/-- A drone at a place that single precision cannot hold. -/
def farAway : Dict ℤ (PyDict ℚ) := [(0, [("fleet_x", .float (10 ^ 39))])]

theorem no_fast_frame_of_far : (farAway.map Prod.fst).Perm ((List.range 1).map Nat.cast) ∧
    ¬ ∃ bytes, encodeFastFrame farAway = .ok bytes := by
  have hnone : (encodeFastFrame farAway).toOption.isSome = false := by decide +kernel
  refine ⟨by decide, ?_⟩
  rintro ⟨bytes, hbytes⟩
  rw [hbytes] at hnone
  cases hnone

end Rows

end Taramandal.Gcs.TelemetryCodec
