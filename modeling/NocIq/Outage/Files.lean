import NocIq.JsonText
import NocIq.Lib.Csv
import NocIq.Outage.Import

/-!
# NocIq — exported and imported files

`export_outages` of `app/utils/exporter.py`, and the part of `import_outages` that reads the
uploaded file. An exported outage has fifteen members; the CSV writer is given fourteen columns and
refuses a row with any other.

* **`exportOutages_csv`** — only an empty list can be exported as CSV.
-/

namespace NocIq

/-! ## Outages -/

/-- `SLAStatus` of `app/models/outage.py`. -/
structure OutageSLAStatus where
  status : String
  mttrMinutes : Option Int := none
  thresholdMinutes : Int
  timeRemainingMinutes : Option Int := none
  deriving DecidableEq, Repr

/-- `Outage` of `app/models/outage.py`. `detected_at` and `resolved_at` are normalised to UTC. -/
structure Outage where
  id : String
  siteName : String
  siteId : Option String := none
  severity : String
  status : String
  detectedAt : Time
  resolvedAt : Option Time := none
  description : String
  affectedServices : List String
  affectedSubscribers : Option Int := none
  assignedTo : Option String := none
  createdBy : Option String := none
  location : Option Location := none
  slaStatus : Option OutageSLAStatus := none
  deletedAt : Option Datetime := none
  deriving DecidableEq, Repr

/-- The process an export or an import of a file runs in: besides what an import of rows needs, the
texts of floats, of `deleted_at`, and of a `JSONDecodeError`. -/
structure FileEnv extends OutageEnv where
  floats : Json.FloatText
  deletedText : Datetime → String
  decodeError : String → String

/-! ## Exporting -/

namespace Outage

open Json

def optional {α : Type} (value : α → Value) : Option α → Value
  | none => .null
  | some a => value a

def locationValue (location : Location) : Value :=
  .obj [("latitude", .ofFloat location.latitude), ("longitude", .ofFloat location.longitude)]

def slaStatusValue (slaStatus : OutageSLAStatus) : Value :=
  .obj
    [ ("status", .str slaStatus.status), ("mttr_minutes", optional .int slaStatus.mttrMinutes),
      ("threshold_minutes", .int slaStatus.thresholdMinutes),
      ("time_remaining_minutes", optional .int slaStatus.timeRemainingMinutes) ]

/-- `_serialize_outage`. -/
def serialize (env : FileEnv) (outage : Outage) : List (String × Value) :=
  [ ("id", .str outage.id), ("site_name", .str outage.siteName),
    ("site_id", optional .str outage.siteId), ("severity", .str outage.severity),
    ("status", .str outage.status), ("detected_at", .str (env.pyd.isoformat outage.detectedAt)),
    ("resolved_at", optional (fun t => .str (env.pyd.isoformat t)) outage.resolvedAt),
    ("description", .str outage.description),
    ("affected_services", .arr (outage.affectedServices.map .str)),
    ("affected_subscribers", optional .int outage.affectedSubscribers),
    ("assigned_to", optional .str outage.assignedTo),
    ("created_by", optional .str outage.createdBy),
    ("location", optional locationValue outage.location),
    ("sla_status", optional slaStatusValue outage.slaStatus),
    ("deleted_at", optional (fun d => .str (env.deletedText d)) outage.deletedAt) ]

end Outage

def csvFieldnames : List String :=
  ["id", "site_name", "site_id", "severity", "status", "detected_at", "resolved_at", "description",
    "affected_services", "affected_subscribers", "assigned_to", "created_by", "location",
    "sla_status"]

/-- The columns that are written with `json.dumps`. -/
def dumpedFieldnames : List String := ["affected_services", "location", "sla_status"]

/-- The text of a cell. The columns that are not dumped are strings, integers or `None`. -/
def cellText (floats : Json.FloatText) (name : String) (value : Json.Value) : Csv.Field :=
  if name ∈ dumpedFieldnames then (Json.dumps floats value).toList
  else
    match value with
    | .null => []
    | .str s => s.toList
    | value => (Json.dumps floats value).toList

/-- `csv.DictWriter.writerow`. -/
def writeDictRow (floats : Json.FloatText) (members : List (String × Json.Value)) :
    Except Raised Csv.Record :=
  let wrong := (members.map (·.1)).filter fun name => name ∉ csvFieldnames
  if wrong ≠ [] then
    .error
      { type := "ValueError"
        message := "dict contains fields not in fieldnames: " ++
          ", ".intercalate (wrong.map fun name => s!"'{name}'")
        isValueError := true }
  else
    .ok (csvFieldnames.map fun name =>
      ((members.lookup name).map (cellText floats name)).getD [])

def writeDictRows (floats : Json.FloatText) :
    List (List (String × Json.Value)) → Except Raised (List Csv.Record)
  | [] => .ok []
  | members :: rows =>
    match writeDictRow floats members with
    | .error e => .error e
    | .ok record => (writeDictRows floats rows).map (record :: ·)

inductive Exported where
  | rows (rows : List Json.Value)
  | text (text : String)

def csvHeader : Csv.Record := csvFieldnames.map String.toList

def csvText (records : List Csv.Record) : String :=
  String.ofList ((csvHeader :: records).flatMap Csv.writeRow)

/-- `str.lower`, on ASCII letters. -/
def lower (s : String) : String := String.ofList (s.toList.map Char.toLower)

def exportOutages (env : FileEnv) (outages : List Outage) (format : String := "json") :
    Except Raised Exported :=
  let format := lower format
  let rows := outages.map (Outage.serialize env)
  if format = "json" then .ok (.rows (rows.map .obj))
  else if format ≠ "csv" then
    .error
      { type := "ValueError"
        message := "Unsupported export format. Use 'json' or 'csv'."
        isValueError := true }
  else (writeDictRows env.floats rows).map fun records => .text (csvText records)

/-! ## Importing -/

/-- An uploaded file: its size in bytes, and its text, or the error of decoding it. -/
structure UploadFile where
  filename : Option String
  size : Nat
  text : Except Raised String

def UploadFile.ofText (filename text : String) : UploadFile where
  filename := some filename
  size := text.utf8ByteSize
  text := .ok text

def endsWith (filename suffix : String) : Bool := suffix.toList.isSuffixOf filename.toList

def parseJson (env : FileEnv) (text : Except Raised String) : Except Failure (List Row) :=
  match text with
  | .error e => .error (.raised e)
  | .ok text =>
    match Json.loads env.floats text.toList with
    | none => .error (.http 400 s!"Invalid JSON: {env.decodeError text}")
    | some (.arr items) => .ok (items.map .json)
    | some _ => .error (.http 400 "JSON file must contain a list of outage objects")

def csvRow (row : List (Csv.Field × Option Csv.Field) × List Csv.Field) : Row :=
  .csv (row.1.map fun cell => (String.ofList cell.1, cell.2.map String.ofList))
    (row.2.map String.ofList)

def parseCsv (text : Except Raised String) : Except Failure (List Row) :=
  match text with
  | .error e => .error (.http 400 s!"Invalid CSV: {e.message}")
  | .ok text =>
    match Csv.read text.toList with
    | .error message => .error (.http 400 s!"Invalid CSV: {message}")
    | .ok records => .ok ((Csv.dictRows records).map csvRow)

/-- `import_outages`, up to the list of rows. -/
def parseFile (env : FileEnv) (file : UploadFile) : Except Failure (List Row) :=
  let filename := file.filename.getD ""
  if env.limits.maxFileUploadSizeBytes < file.size then
    .error (.http 413 "File exceeds 10 MB limit")
  else if endsWith filename ".json" then parseJson env file.text
  else if endsWith filename ".csv" then parseCsv file.text
  else .error (.http 400 "Unsupported file format. Use .json or .csv")

/-- `POST /outages/import`. -/
def importOutages (env : FileEnv) (file : UploadFile) (dryRun : Bool)
    (consistency : ImportConsistency) (s : OutageStore) :
    Except Failure ImportResponse × OutageStore :=
  match parseFile env file with
  | .error e => (.error e, s)
  | .ok rows => importRows env.toOutageEnv dryRun consistency rows s

/-! ## What CSV files can do -/

theorem writeDictRow_serialize (env : FileEnv) (outage : Outage) :
    writeDictRow env.floats (Outage.serialize env outage) =
      .error
        { type := "ValueError"
          message := "dict contains fields not in fieldnames: 'deleted_at'"
          isValueError := true } := by
  have hwrong : ((Outage.serialize env outage).map (·.1)).filter (fun name => name ∉ csvFieldnames)
      = ["deleted_at"] := by
    have hnames : (Outage.serialize env outage).map (·.1) = csvFieldnames ++ ["deleted_at"] := rfl
    rw [hnames]
    decide
  unfold writeDictRow
  dsimp only
  rw [hwrong, if_pos (by decide)]
  rfl

/-- **Only an empty list can be exported as CSV.** -/
theorem exportOutages_csv (env : FileEnv) (outages : List Outage) :
    exportOutages env outages "csv" =
      if outages = [] then .ok (.text (csvText []))
      else
        .error
          { type := "ValueError"
            message := "dict contains fields not in fieldnames: 'deleted_at'"
            isValueError := true } := by
  unfold exportOutages
  rw [if_neg (by decide), if_neg (by decide)]
  cases outages with
  | nil => rfl
  | cons outage outages =>
    rw [if_neg (List.cons_ne_nil _ _), List.map_cons, writeDictRows, writeDictRow_serialize]
    rfl

end NocIq
