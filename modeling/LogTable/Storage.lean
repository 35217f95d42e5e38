/-!
# Where tables are kept

A run keeps its tables either in local directories or in an object store, and its environment
decides which: `StorageMode.ofEnvironment`.  The settings of an object store are handed on as named
options (`StorageMode.options`); the options that are shown have their credentials masked
(`StorageMode.redactedOptions`).
-/

namespace LogTable

/-- The variables of a process, by name. -/
def Environment : Type := String → Option String

namespace Environment

/-- The environment that holds the listed variables; of two with one name the first counts. -/
def ofList (entries : List (String × String)) : Environment :=
  fun name => entries.lookup name

/-- The value of a variable, with an empty value counted as missing. -/
def nonEmpty? (env : Environment) (name : String) : Option String :=
  (env name).filter (· ≠ "")

/-- The value of a variable, with a missing variable counted as empty. -/
def textOf (env : Environment) (name : String) : String :=
  (env name).getD ""

end Environment

/-- The variables that select and describe an object store. -/
inductive StorageVariable where
  | accessKey
  | secretKey
  | endpoint
  | bucket
  | region
  deriving DecidableEq, Repr

namespace StorageVariable

/-- The name of a variable in the environment. -/
def name : StorageVariable → String
  | accessKey => "AWS_ACCESS_KEY_ID"
  | secretKey => "AWS_SECRET_ACCESS_KEY"
  | endpoint => "S3_ENDPOINT"
  | bucket => "S3_BUCKET"
  | region => "AWS_REGION"

end StorageVariable

/-- How to reach an object store. -/
structure ObjectStore where
  accessKey : String
  secretKey : String
  endpoint : Option String
  bucket : String
  region : String
  deriving DecidableEq, Repr

/-- Named options, one value for each name. -/
abbrev Options : Type := List (String × String)

namespace ObjectStore

/-- The region of an object store whose environment names none. -/
def defaultRegion : String := "us-east-1"

/-- The options that open an object store.  Plain connections are allowed, and commits rely on
conditional writes, so that no lock table is needed. -/
def options (store : ObjectStore) : Options :=
  [(StorageVariable.accessKey.name, store.accessKey),
    (StorageVariable.secretKey.name, store.secretKey)] ++
  (store.endpoint.toList.map fun endpoint => ("AWS_ENDPOINT_URL", endpoint)) ++
  [(StorageVariable.region.name, store.region),
    ("AWS_ALLOW_HTTP", "true"),
    ("aws_conditional_put", "etag")]

end ObjectStore

/-- Where a run keeps its tables. -/
inductive StorageMode where
  | localFiles
  | objectStore (store : ObjectStore)
  deriving DecidableEq, Repr

namespace StorageMode

/-- A non-empty access key selects the object store.  A missing secret or bucket is empty, an empty
endpoint is missing, and a missing or empty region is the default one. -/
def ofEnvironment (env : Environment) : StorageMode :=
  match env.nonEmpty? StorageVariable.accessKey.name with
  | none => localFiles
  | some accessKey => objectStore
      { accessKey
        secretKey := env.textOf StorageVariable.secretKey.name
        endpoint := env.nonEmpty? StorageVariable.endpoint.name
        bucket := env.textOf StorageVariable.bucket.name
        region := (env.nonEmpty? StorageVariable.region.name).getD ObjectStore.defaultRegion }

/-- Tables are local directories. -/
def isLocal : StorageMode → Bool
  | localFiles => true
  | objectStore _ => false

/-- The word for a mode. -/
def word : StorageMode → String
  | localFiles => "local"
  | objectStore _ => "s3"

/-- The options that open a table; a local table needs none. -/
def options : StorageMode → Options
  | localFiles => []
  | objectStore store => store.options

/-- The options whose values are never shown. -/
def secretNames : List String :=
  [StorageVariable.accessKey.name, StorageVariable.secretKey.name]

/-- What is shown in place of a secret. -/
def mask : String := "***"

/-- The options of a mode with the values of the secrets masked. -/
def redactedOptions (mode : StorageMode) : Options :=
  mode.options.map fun (name, value) => (name, if name ∈ secretNames then mask else value)

@[simp] theorem isLocal_localFiles : localFiles.isLocal = true := rfl

@[simp] theorem isLocal_objectStore (store : ObjectStore) : (objectStore store).isLocal = false :=
  rfl

/-- Masking changes no name and no order. -/
@[simp] theorem map_fst_redactedOptions (mode : StorageMode) :
    mode.redactedOptions.map Prod.fst = mode.options.map Prod.fst := by
  simp [redactedOptions, Function.comp_def]

end StorageMode

end LogTable
