import Taramandal.Gcs.TrajectoryParser

/-! # The exporters of the Studio (`exporter.py`)

JSON is the choreography itself, vetted by the schema and with its geofence envelope; CSV is a
table of waypoints, with colour columns as soon as one waypoint has a red channel. What writes
the texts (`json.dumps`, `csv.writer`) is a parameter. -/
set_option linter.unusedSectionVars false

namespace Taramandal.Studio.Exporter

open Lib.Check Lib.Dict Core.Numbers Core.Values Core.Safety Core.Schema Core.Shows Core.Validate
open Gcs.Gate Gcs.TrajectoryParser

variable {K : Type} [Field K] [LinearOrder K]

/-- Why an export is refused. -/
inductive ExportError where
  | schema (errors : List SchemaError)
  | value (message : String)

def envelopeDict (envelope : K × K × K) : PyVal K :=
  .dict [("envelope_radius_m", .float envelope.1), ("soft_warning_radius_m", .float envelope.2.1),
    ("hard_geofence_radius_m", .float envelope.2.2)]

def stampVersion (choreoData : PyDict K) : PyDict K :=
  ("version", (find choreoData "version").getD (.int showFormatVersion)) ::
    remove choreoData "version"

section

variable [FloorRing K] [IsStrictOrderedRing K] [Sqrt K]

/-- What `export_json` writes. -/
def exportedData (choreoData : PyDict K) : Except ExportError (PyDict K) :=
  let data := stampVersion choreoData
  match Show.validateAndLoad (.dict (remove data "_geofence")) with
  | .error errors => .error (.schema errors)
  | .ok vetted =>
    match find data "drones" with
    | some (.list _) =>
      -- `Show.from_any` reads the waypoints that have just been vetted
      match vetted.geofenceEnvelope defaultLimits with
      | .error message => .error (.value message)
      | .ok envelope => .ok (assign data "_geofence" (envelopeDict envelope))
    | _ => .ok data

def exportJson (dumps : PyVal K → Except String String) (choreoData : PyDict K) :
    Except ExportError String :=
  match exportedData choreoData with
  | .error e => .error e
  | .ok data => (dumps (.dict data)).mapError .value

end

/-- `v.get(key, default)`. -/
def getDefault (v : PyVal K) (key : String) (default : PyVal K) : Except String (PyVal K) :=
  match v with
  | .dict d => .ok ((find d key).getD default)
  | v => .error ("'" ++ typeName v ++ "' object has no attribute 'get'")

/-- `key in v`. -/
def isIn (key : String) : PyVal K → Except String Bool
  | .dict d => .ok (has d key)
  | .list items => .ok (items.any fun item => match item with
    | .str s => s = key
    | _ => false)
  | .str s => .ok (Gcs.CsvAdapter.contains key s)
  | v => .error ("argument of type '" ++ typeName v ++ "' is not iterable")

/-- `any(...)`, which stops at the first hit. -/
def anyOf {α : Type} (test : α → Except String Bool) : List α → Except String Bool
  | [] => .ok false
  | a :: rest => do
    let hit ← test a
    if hit then .ok true else anyOf test rest

/-- `drone.get("waypoints", [])`, as it is looped over. -/
def waypointsOf (drone : PyVal K) : Except String (List (PyVal K)) := do
  let waypoints ← getDefault drone "waypoints" (.list [])
  iterate waypoints

def hasColor (drones : List (PyVal K)) : Except String Bool :=
  anyOf (fun drone => do
    let waypoints ← waypointsOf drone
    anyOf (isIn "r") waypoints) drones

def csvRow (color : Bool) (droneId wp : PyVal K) : Except String (List (PyVal K)) := do
  let coordinates ← ["time", "x", "y", "z", "yaw"].mapM (subscript wp)
  let channels ← if color then ["r", "g", "b"].mapM fun key => getDefault wp key (.int 255)
    else .ok []
  .ok (droneId :: coordinates ++ channels)

def csvRows (color : Bool) (drone : PyVal K) : Except String (List (List (PyVal K))) := do
  let droneId ← subscript drone "id"
  let waypoints ← waypointsOf drone
  waypoints.mapM (csvRow color droneId)

def csvHeader (color : Bool) : List String :=
  ["drone_id", "time", "x", "y", "z", "yaw"] ++ if color then ["r", "g", "b"] else []

def csvTable (choreoData : PyDict K) : Except String (List String × List (List (PyVal K))) := do
  let drones ← iterate ((find choreoData "drones").getD (.list []))
  let color ← hasColor drones
  let rows ← drones.mapM (csvRows color)
  .ok (csvHeader color, rows.flatten)

def exportCsv (writeCsv : List String → List (List (PyVal K)) → String)
    (choreoData : PyDict K) : Except String String :=
  (csvTable choreoData).map fun table => writeCsv table.1 table.2

section Gate

variable {choreoData d : PyDict K} {s : Show K}

lemma find_stampVersion {key : String} (h : key ≠ "version") :
    find (stampVersion choreoData) key = find choreoData key := by
  rw [stampVersion, find, if_neg (Ne.symm h), find_remove_ne _ (Ne.symm h)]

lemma validateAndLoad_congr {d' : PyDict K} (hversion : find d' "version" = find d "version")
    (hdrones : find d' "drones" = find d "drones")
    (href : find d' "signature_ref" = find d "signature_ref")
    (hgeofence : ∃ g, optional d' [] "_geofence" (fun l => notNull l (validateGeofenceEnvelope l)) =
      .ok g)
    (h : Show.validateAndLoad (.dict d) = .ok s) : Show.validateAndLoad (.dict d') = .ok s := by
  obtain ⟨c, hc, rfl⟩ := map_eq_ok.mp h
  obtain ⟨⟨version, drones, geofence, ref⟩, hboth, rfl⟩ := map_eq_ok.mp hc
  simp only [both_eq_ok] at hboth
  obtain ⟨hv, hd, -, hr⟩ := hboth
  obtain ⟨g, hg⟩ := hgeofence
  have hcontainer : validateContainer (.dict d') =
      .ok { version, drones := drones.1, unique_ids := drones.2, geofence := g
            signatureRef := ref.join } := by
    refine map_eq_ok.mpr ⟨(version, drones, g, ref), ?_, rfl⟩
    simp only [both_eq_ok]
    refine ⟨?_, ?_, hg, ?_⟩
    · rw [required, hversion]
      exact hv
    · rw [required, hdrones]
      exact hd
    · have hsame : optional d' [] "signature_ref" signatureRef =
          optional d [] "signature_ref" signatureRef := by
        unfold Core.Schema.optional
        rw [href]
      exact hsame.trans hr
  rw [Show.validateAndLoad, hcontainer]
  rfl

variable [FloorRing K] [IsStrictOrderedRing K] [Sqrt K]

omit [FloorRing K] [IsStrictOrderedRing K] [Sqrt K] in
lemma nonnegFloat_float {loc : Loc} {x : K} (h : 0 ≤ x) : nonnegFloat loc (.float x) = .ok ⟨x, h⟩ :=
  bind_eq_ok.mpr ⟨x, rfl, dif_pos h⟩

lemma optional_envelope [LawfulSqrt K] {envelope : K × K × K}
    (h : s.geofenceEnvelope defaultLimits = .ok envelope) :
    ∃ g, optional (assign d "_geofence" (envelopeDict envelope)) [] "_geofence"
      (fun l => notNull l (validateGeofenceEnvelope l)) = .ok g := by
  obtain ⟨radii, hradii, rfl⟩ := map_eq_ok.mp h
  have hreach := s.maxHorizontalRadiusM_nonneg
  rw [SafetyLimits.geofenceRadii, if_neg (not_lt.mpr hreach)] at hradii
  cases hradii
  have hsoft : 0 ≤ s.maxHorizontalRadiusM +
      (defaultLimits : SafetyLimits K).geofenceSoftWarningBufferM := by
    refine add_nonneg hreach ?_
    norm_num [defaultLimits]
  have hhard : 0 ≤ s.maxHorizontalRadiusM +
      (defaultLimits : SafetyLimits K).geofenceHardBufferM := by
    refine add_nonneg hreach ?_
    norm_num [defaultLimits]
  have hall : validateGeofenceEnvelope ["_geofence"] (envelopeDict
      (s.maxHorizontalRadiusM,
        s.maxHorizontalRadiusM + (defaultLimits : SafetyLimits K).geofenceSoftWarningBufferM,
        s.maxHorizontalRadiusM + (defaultLimits : SafetyLimits K).geofenceHardBufferM)) =
      .ok ⟨⟨_, hreach⟩, ⟨_, hsoft⟩, ⟨_, hhard⟩⟩ := by
    refine map_eq_ok.mpr ⟨(⟨_, hreach⟩, ⟨_, hsoft⟩, ⟨_, hhard⟩), ?_, rfl⟩
    simp only [both_eq_ok]
    exact ⟨nonnegFloat_float hreach, nonnegFloat_float hsoft, nonnegFloat_float hhard⟩
  refine ⟨some ⟨⟨_, hreach⟩, ⟨_, hsoft⟩, ⟨_, hhard⟩⟩, ?_⟩
  unfold Core.Schema.optional
  rw [find_assign_self]
  exact map_eq_ok.mpr ⟨_, hall, rfl⟩

lemma drones_of_load (h : Show.validateAndLoad (.dict d) = .ok s) :
    ∃ items, find d "drones" = some (.list items) := by
  obtain ⟨c, hc, rfl⟩ := map_eq_ok.mp h
  obtain ⟨⟨version, drones, geofence, ref⟩, hboth, rfl⟩ := map_eq_ok.mp hc
  simp only [both_eq_ok] at hboth
  obtain ⟨v, hv, hd⟩ := required_ok hboth.2.1
  obtain ⟨tracks, hlist, -⟩ := bind_eq_ok.mp hd
  cases v with
  | list items => exact ⟨items, hv⟩
  | _ => cases hlist

lemma checkVersion_stamp (h : checkVersion choreoData = .ok d) :
    find (stampVersion choreoData) "version" = find d "version" ∧
      (∀ key, key ≠ "version" → find d key = find choreoData key) ∧
      ∀ data : PyDict K, find data "version" = find d "version" → checkVersion data = .ok data := by
  have hstamp : find (stampVersion choreoData) "version" =
      some ((find choreoData "version").getD (.int showFormatVersion)) := by
    rw [stampVersion, find, if_pos rfl]
  rw [hstamp]
  unfold checkVersion at h
  split at h
  next hnone =>
    cases h
    refine ⟨?_, fun key hkey => ?_, fun data hdata => ?_⟩
    · rw [hnone, find, if_pos rfl]
      rfl
    · rw [find, if_neg (Ne.symm hkey)]
    · rw [find, if_pos rfl] at hdata
      unfold checkVersion
      rw [hdata]
      exact if_neg (lt_irrefl _)
  next version hsome =>
    split at h
    · cases h
    next hold =>
      cases h
      refine ⟨by rw [hsome]; rfl, fun _ _ => rfl, fun data hdata => ?_⟩
      unfold checkVersion
      rw [hdata, hsome]
      exact if_neg hold
  next v hint hsome =>
    cases h
    refine ⟨by rw [hsome]; rfl, fun _ _ => rfl, fun data hdata => ?_⟩
    unfold checkVersion
    rw [hdata, hsome]
    split
    next hnone => cases hnone
    next version hversion => cases hversion; exact absurd rfl (hint version)
    next => rfl

/-- The gate takes what `export_json` writes for the show that was exported. -/
lemma gateShow_exportedData [LawfulSqrt K] {tree : KdTree K} {data : PyDict K}
    {trajectory : Show K} (h : gateShow tree (.dict choreoData) = .ok trajectory)
    (hdata : exportedData choreoData = .ok data) :
    gateShow tree (.dict data) = .ok trajectory := by
  obtain ⟨d, s, hversion, hload, hempty, rfl, hcol, halt⟩ := gateShow_ok h
  have hdrones : s.drones ≠ [] := by
    intro hnil
    exact gateShow_drones_ne_nil h (by simp [timeSorted, hnil])
  obtain ⟨hstamp, hkeys, hcheck⟩ := checkVersion_stamp hversion
  obtain ⟨items, hitems⟩ := drones_of_load hload
  have hlist : find (stampVersion choreoData) "drones" = some (.list items) := by
    rw [find_stampVersion (by decide), ← hkeys "drones" (by decide), hitems]
  simp only [exportedData] at hdata
  split at hdata
  · cases hdata
  next vetted hvetted =>
    simp only [hlist] at hdata
    split at hdata
    · cases hdata
    next envelope henvelope =>
      cases hdata
      have hkeep (key : String) (hne : "_geofence" ≠ key) :
          find (assign (stampVersion choreoData) "_geofence" (envelopeDict envelope)) key =
            find (stampVersion choreoData) key := find_assign_ne _ _ hne
      have hassigned := (hkeep "version" (by decide)).trans hstamp
      refine gateShow_of_checked (hcheck _ hassigned) ?_ hdrones hempty hcol halt
      refine validateAndLoad_congr hassigned ?_ ?_ (optional_envelope henvelope) hload
      · rw [hkeep _ (by decide), hlist, hitems]
      · rw [hkeep _ (by decide), find_stampVersion (by decide), ← hkeys _ (by decide)]

end Gate

end Taramandal.Studio.Exporter
