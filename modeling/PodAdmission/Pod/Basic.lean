import PodAdmission.Json.Writer
import PodAdmission.Pod.Shape.Whole
import PodAdmission.Schema.Reader

/-!
# Pods

A pod is a record of the fields in `Shape.podFields`. `Pod.decode` reads one from the text of an
object and `Pod.encode` writes it; the order of fields and of map entries is fixed, so equal pods
have equal texts.

The rest are the views of a pod that the policies decide by, and the changes that they make. A flag
that is not set differs from one that is set to false, so the views of flags are optional.
-/

namespace PodAdmission

/-- A pod. -/
structure Pod where
  fields : Record

/-- A container of a pod. -/
structure Container where
  fields : Record

namespace Datum

/-- Changes a record and leaves any other datum alone. -/
def mapRecord (f : Record → Record) : Datum → Datum
  | .record fields => .record (f fields)
  | d => d

/-- Changes the items of a list and leaves any other datum alone. -/
def mapItems (f : Datum → Datum) : Datum → Datum
  | .list items => .list (items.map f)
  | d => d

end Datum

/-- The Windows option to run as a process of the host, of a pod specification or a container. -/
def Record.hostProcess? (r : Record) : Option Bool := do
  let context ← Record.record? "securityContext" r
  let options ← Record.record? "windowsOptions" context
  Record.flag? "hostProcess" options

namespace Container

/-- The name. -/
def name (c : Container) : String :=
  (Record.text? "name" c.fields).getD ""

/-- The image, if there is one. -/
def image? (c : Container) : Option String :=
  Record.text? "image" c.fields

/-- The command, if there is one. -/
def command? (c : Container) : Option (List String) :=
  Record.texts? "command" c.fields

/-- The arguments, if there are any. -/
def args? (c : Container) : Option (List String) :=
  Record.texts? "args" c.fields

/-- Whether the container asks to run as a process of the host. -/
def hostProcess? (c : Container) : Option Bool :=
  Record.hostProcess? c.fields

/-- Sets a field to a list of texts. -/
def setTexts (field : String) (texts : List String) (c : Container) : Container :=
  ⟨Entries.insert field (.list (texts.map .text)) c.fields⟩

end Container

namespace Pod

/-! ### Text form -/

/-- All that the reader of pods answers. -/
def Conforms (p : Pod) : Prop :=
  Shape.Fits (.record "Pod" Shape.podFields) (.record p.fields)

/-- Equality of pods. -/
def same (p q : Pod) : Bool :=
  Datum.sameFields p.fields q.fields

/-- Reads a pod. -/
def read (bytes : Bytes) : Read Pod :=
  (Reader.readRecord "Pod" (Shape.header "Pod") (Shape.readers Shape.podFields) Reader.maxDepth
    bytes).map fun (fields, r) => (⟨Shape.complete Shape.podFields fields⟩, r)

/-- The pod that the text of an object stands for. -/
def decode (text : Bytes) : Except JsonError Pod :=
  Reader.readWhole read text

/-- The JSON value that a pod is written as. -/
def toJson (p : Pod) : Json :=
  .object ((Shape.header "Pod").map (fun (k, v) => (k, .text v)) ++ Datum.fieldsToJson p.fields)

/-- The text of a pod. -/
def encode (p : Pod) : Bytes :=
  p.toJson.write

/-! ### Views -/

/-- The specification, if there is one. -/
def spec? (p : Pod) : Option Record :=
  Record.record? "spec" p.fields

/-- The metadata. -/
def metadata (p : Pod) : Record :=
  (Record.record? "metadata" p.fields).getD []

/-- The containers under a field of the specification. -/
def containersIn (field : String) (p : Pod) : List Container :=
  match p.spec?.bind (Record.list? field) with
  | some items => (items.filterMap Datum.asRecord?).map Container.mk
  | none => []

/-- The regular containers. -/
def containers (p : Pod) : List Container :=
  p.containersIn "containers"

/-- The containers that run before the regular ones. -/
def initContainers (p : Pod) : List Container :=
  p.containersIn "initContainers"

/-- Whether the pod as a whole asks to run as a process of the host. -/
def hostProcess? (p : Pod) : Option Bool :=
  p.spec?.bind Record.hostProcess?

/-- Whether the pod is on the network of the host. -/
def hostNetwork (p : Pod) : Bool :=
  (p.spec?.bind (Record.flag? "hostNetwork")).getD false

/-- The label value that a node has to have under a key. -/
def nodeSelector? (key : String) (p : Pod) : Option String :=
  (p.spec?.bind (Record.record? "nodeSelector")).bind (Record.text? key)

/-- The annotations. -/
def annotations (p : Pod) : Record :=
  (Record.record? "annotations" p.metadata).getD []

/-- How a log names the pod: the name or, before it has one, what its name will start with, behind
the namespace if there is one. -/
def displayName (p : Pod) : String :=
  let name := ((Record.text? "name" p.metadata).or (Record.text? "generateName" p.metadata)).getD ""
  match Record.text? "namespace" p.metadata with
  | some ns => ns ++ "/" ++ name
  | none => name

/-- Some container asks to run as a process of the host. -/
def anyHostProcess (containers : List Container) : Bool :=
  containers.any fun c => c.hostProcess? == some true

/-! ### Changes -/

/-- Changes the specification, if there is one. -/
def modifySpec (f : Record → Record) (p : Pod) : Pod :=
  ⟨Entries.modify "spec" (Datum.mapRecord f) p.fields⟩

/-- Changes the regular containers one by one. -/
def mapContainers (f : Container → Container) (p : Pod) : Pod :=
  p.modifySpec fun spec =>
    Entries.modify "containers"
      (Datum.mapItems (Datum.mapRecord fun fields => (f ⟨fields⟩).fields)) spec

/-- Sets an annotation. -/
def annotate (key value : String) (p : Pod) : Pod :=
  let annotations := Entries.insert key (.text value) p.annotations
  let metadata := Entries.insert "annotations" (.record annotations) p.metadata
  ⟨Entries.insert "metadata" (.record metadata) p.fields⟩

/-- Sets a field of the specification to a text, if there is a specification and it lacks the
field. -/
def defaultSpecText (field value : String) (p : Pod) : Pod :=
  p.modifySpec fun spec =>
    match Entries.get? field spec with
    | some _ => spec
    | none => Entries.insert field (.text value) spec

end Pod

end PodAdmission
