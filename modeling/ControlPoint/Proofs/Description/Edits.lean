import Mathlib
import ControlPoint.Proofs.Description.Reading

namespace ControlPoint.Description

open Markup Text

namespace NodeKind

/-- The names, in lower case, of the child elements whose texts an element of a kind takes. -/
def fieldNames : NodeKind → List String
  | .specVersion => ["major", "minor"]
  | .action => ["name"]
  | .argument => ["name", "direction", "relatedstatevariable"]
  | .stateVariable => ["name", "datatype", "defaultvalue"]
  | .allowedValueList => ["allowedvalue"]
  | .allowedValueRange => ["minimum", "maximum", "step"]
  | .root => ["urlbase"]
  | .device =>
    ["devicetype", "friendlyname", "manufacturer", "manufacturerurl", "modeldescription",
      "modelname", "modelnumber", "modelurl", "serialnumber", "udn", "upc", "presentationurl"]
  | .service => ["servicetype", "serviceid", "scpdurl", "controlurl", "eventsuburl"]
  | .icon => ["mimetype", "width", "height", "depth", "url"]
  | _ => []

/-- The names, in lower case, of the child elements that an element of a kind takes note of. -/
def markNames : NodeKind → List String
  | .argument => ["retval"]
  | _ => []

/-- A child element of this name means nothing to an element of the kind. -/
structure Ignores (kind : NodeKind) (name : String) : Prop where
  child : ∀ child ∈ kind.childKinds, sameIgnoringCase name child.elementName = false
  field : lowerAscii name ∉ kind.fieldNames
  mark : lowerAscii name ∉ kind.markNames

instance (kind : NodeKind) (name : String) : Decidable (kind.Ignores name) :=
  decidable_of_iff
    ((∀ child ∈ kind.childKinds, sameIgnoringCase name child.elementName = false) ∧
      lowerAscii name ∉ kind.fieldNames ∧ lowerAscii name ∉ kind.markNames)
    ⟨fun ⟨hchild, hfield, hmark⟩ => ⟨hchild, hfield, hmark⟩,
      fun ⟨hchild, hfield, hmark⟩ => ⟨hchild, hfield, hmark⟩⟩

theorem Ignores.childNamed? {kind : NodeKind} {name : String} (hignores : kind.Ignores name) :
    kind.childNamed? name = none := by
  rw [NodeKind.childNamed?, List.find?_eq_none]
  intro child hchild
  simp [isNamed, hignores.child child hchild]

end NodeKind

namespace Node

theorem takeText?_isSome_iff (node : Node) (name text : String) :
    (node.takeText? name text).isSome ↔ lowerAscii name ∈ node.kind.fieldNames := by
  unfold takeText?
  generalize lowerAscii name = field
  cases node
  case scpd | actionList | argumentList | serviceStateTable | deviceList | serviceList | iconList =>
    simp [kind, NodeKind.fieldNames]
  case device | service | icon =>
    dsimp only
    rw [Option.isSome_map]
    simp only [DeviceInfo.take?, ServiceReference.take?, Icon.take?, kind, NodeKind.fieldNames]
    split <;> simp_all
  all_goals
    dsimp only [kind, NodeKind.fieldNames]
    split <;> simp_all

theorem takeMark?_isSome_iff (node : Node) (name : String) :
    (node.takeMark? name).isSome ↔ lowerAscii name ∈ node.kind.markNames := by
  have hretval : lowerAscii "retval" = "retval" := by decide
  cases node
  case argument a =>
    simp only [takeMark?, sameIgnoringCase, hretval, kind, NodeKind.markNames]
    split <;> simp_all
  all_goals simp [takeMark?, kind, NodeKind.markNames]

theorem withText_of_notMem {node : Node} {name : String}
    (hfield : lowerAscii name ∉ node.kind.fieldNames) (text : String) :
    node.withText name text = node := by
  have hnone := (node.takeText?_isSome_iff name text).not.mpr hfield
  rw [Option.not_isSome_iff_eq_none] at hnone
  rw [withText, hnone, Option.getD_none]

theorem withMark_of_notMem {node : Node} {name : String}
    (hmark : lowerAscii name ∉ node.kind.markNames) : node.withMark name = node := by
  have hnone := (node.takeMark?_isSome_iff name).not.mpr hmark
  rw [Option.not_isSome_iff_eq_none] at hnone
  rw [withMark, hnone, Option.getD_none]

theorem readField_of_notMem {node : Node} {name : String}
    (hfield : lowerAscii name ∉ node.kind.fieldNames) (inside : List Tree) :
    node.readField name inside = node := by
  induction inside with
  | nil => rfl
  | cons t rest ih =>
    cases t with
    | text s => rw [readField, withText_of_notMem hfield, ih]
    | empty e => exact ih
    | element e inside => exact ih

/-- An element that means nothing to a node leaves it as it is, whatever stands inside. -/
theorem readTree_of_ignores {node : Node} {t : Tree} {e : Element} (htop : t.top? = some e)
    (hignores : node.kind.Ignores e.name) : node.readTree t = node := by
  cases t with
  | text s => cases htop
  | empty e' =>
    obtain rfl := Option.some.inj htop
    rw [readTree, hignores.childNamed?]
    exact withMark_of_notMem hignores.mark
  | element e' inside =>
    obtain rfl := Option.some.inj htop
    rw [readTree, hignores.childNamed?]
    dsimp only
    rw [withMark_of_notMem hignores.mark, readField_of_notMem hignores.field]

/-- It makes no difference whether an element with nothing inside is written as one tag or two. -/
theorem readTree_empty (node : Node) (e : Element) :
    node.readTree (.empty e) = node.readTree (.element e []) := rfl

end Node

/-! ### Edits -/

/-- An edit of the trees that stand side by side inside an element: a node's of some kind, or, for
    `none`, one that is no node. An empty tag is written out, or two tags are made one; inside a node,
    an element that means nothing there is added with all it holds; or the edit is inside one of the
    trees. -/
inductive Edit : Option NodeKind → List Tree → List Tree → Prop
  | writeOut (place : Option NodeKind) (before after : List Tree) (e : Element) :
    Edit place (before ++ .empty e :: after) (before ++ .element e [] :: after)
  | contract (place : Option NodeKind) (before after : List Tree) (e : Element) :
    Edit place (before ++ .element e [] :: after) (before ++ .empty e :: after)
  | insert (kind : NodeKind) (before after : List Tree) (added : Tree) (e : Element)
    (htop : added.top? = some e) (hignores : kind.Ignores e.name) :
    Edit (some kind) (before ++ after) (before ++ added :: after)
  | within (place : Option NodeKind) (before after : List Tree) (e : Element)
    {inside inside' : List Tree}
    (hedit : Edit (place.bind fun kind => kind.childNamed? e.name) inside inside') :
    Edit place (before ++ .element e inside :: after) (before ++ .element e inside' :: after)

namespace Edit

theorem readField_eq {place : Option NodeKind} {ts ts' : List Tree} (hedit : Edit place ts ts')
    (hplace : place = none) (node : Node) (name : String) :
    node.readField name ts = node.readField name ts' := by
  cases hedit with
  | writeOut before after e => simp [Node.readField_append, Node.readField]
  | contract before after e => simp [Node.readField_append, Node.readField]
  | insert kind before after added e htop hignores => cases hplace
  | within before after e hedit => simp [Node.readField_append, Node.readField]

/-- An edit inside a node's element leaves what is read there as it is. -/
theorem readForest_eq {kind : NodeKind} {ts ts' : List Tree} (hedit : Edit (some kind) ts ts')
    {node : Node} (hkind : node.kind = kind) : node.readForest ts = node.readForest ts' := by
  generalize hplace : some kind = place at hedit
  induction hedit generalizing kind node with
  | writeOut place before after e => simp [Node.readForest_append, Node.readTree_empty]
  | contract place before after e => simp [Node.readForest_append, Node.readTree_empty]
  | insert _ before after added e htop hignores =>
    obtain rfl := Option.some.inj hplace
    have hhere : (node.readForest before).kind.Ignores e.name := by
      rwa [Node.kind_readForest, hkind]
    rw [Node.readForest_append, Node.readForest_append, Node.readForest_cons,
      Node.readTree_of_ignores htop hhere]
  | @within place before after e inside inside' hinside ih =>
    subst hplace
    have htree (before : Node) (hbefore : before.kind = kind) :
        before.readTree (.element e inside) = before.readTree (.element e inside') := by
      rw [Node.readTree, Node.readTree, hbefore]
      cases hchild : kind.childNamed? e.name with
      | none => exact hinside.readField_eq (by simpa using hchild) _ e.name
      | some child =>
        exact congrArg before.adopt (ih (Node.kind_ofElement child e) (by simpa using hchild.symm))
    rw [Node.readForest_append, Node.readForest_append, Node.readForest_cons, Node.readForest_cons,
      htree _ (by rw [Node.kind_readForest, hkind])]

end Edit

/-- An edit inside the first element, in the order of the document, that is of the root's kind. -/
inductive EditInRoot (rootKind : NodeKind) : List Tree → List Tree → Prop
  | here (before after : List Tree) (e : Element) {inside inside' : List Tree}
    (hbefore : rootKind.AbsentFrom (Tree.forestTokens before))
    (hroot : rootKind.isNamed e.name = true) (hedit : Edit (some rootKind) inside inside') :
    EditInRoot rootKind (before ++ .element e inside :: after)
      (before ++ .element e inside' :: after)
  | deeper (before after : List Tree) (e : Element) {inside inside' : List Tree}
    (hbefore : rootKind.AbsentFrom (Tree.forestTokens before))
    (hother : rootKind.isNamed e.name = false) (hedit : EditInRoot rootKind inside inside') :
    EditInRoot rootKind (before ++ .element e inside :: after)
      (before ++ .element e inside' :: after)

/-- An edit inside the root element leaves what is read of the document as it is. -/
theorem EditInRoot.run_eq {rootKind : NodeKind} {ts ts' : List Tree}
    (hedit : EditInRoot rootKind ts ts') :
    Progress.run rootKind .before (Tree.forestTokens ts) =
      Progress.run rootKind .before (Tree.forestTokens ts') := by
  induction hedit with
  | here before after e hbefore hroot hedit =>
    have hread (inside : List Tree) :
        Progress.run rootKind .before (Tree.forestTokens (before ++ .element e inside :: after)) =
          .complete ((Node.ofElement rootKind e).readForest inside) := by
      rw [Tree.forestTokens_append]
      exact Progress.run_root_element hbefore hroot inside (Tree.forestTokens after)
    rw [hread, hread, hedit.readForest_eq (Node.kind_ofElement rootKind e)]
  | deeper before after e hbefore hother _ ih =>
    have hstart : Progress.step rootKind .before (.start e) = .before := by
      simp [Progress.step, NodeKind.opensAt, hother]
    simp only [Tree.forestTokens_append, Tree.forestTokens_element, Progress.run_append,
      Progress.run_before hbefore, Progress.run_cons, hstart, ih]

/-- The scan of a whole document that consists of trees. -/
structure Scan.Yields (scan : Scan) (ts : List Tree) : Prop where
  tokens : scan.tokens.map Prod.fst = Tree.forestTokens ts
  ending : ∃ stop, scan.ending = .ok stop

theorem Node.ofScan_of_yields {rootKind : NodeKind} {scan : Scan} {ts : List Tree}
    (hscan : Scan.Yields scan ts) :
    Node.ofScan rootKind scan =
      match (Progress.run rootKind .before (Tree.forestTokens ts)).finish? with
      | some node => .ok node
      | none => .error (.missingRoot rootKind) := by
  obtain ⟨stop, hending⟩ := hscan.ending
  rw [Node.ofScan, hscan.tokens, hending]
  cases (Progress.run rootKind .before (Tree.forestTokens ts)).isComplete <;> rfl

theorem Node.ofScan_eq_of_reflTransGen {rootKind : NodeKind} {ts ts' : List Tree} {scan scan' : Scan}
    (hscan : Scan.Yields scan ts) (hscan' : Scan.Yields scan' ts')
    (hedits : Relation.ReflTransGen (EditInRoot rootKind) ts ts') :
    Node.ofScan rootKind scan = Node.ofScan rootKind scan' := by
  have hrun : Progress.run rootKind .before (Tree.forestTokens ts) =
      Progress.run rootKind .before (Tree.forestTokens ts') := by
    clear hscan'
    induction hedits with
    | refl => rfl
    | tail _ hedit ih => exact ih.trans hedit.run_eq
  rw [Node.ofScan_of_yields hscan, Node.ofScan_of_yields hscan', hrun]

/-- A description stays what it is whatever edits are made inside the root element of its document:
    empty tags may be written as two tags and back, and elements may be added wherever they mean
    nothing to the node in whose element they stand, with all they hold. -/
theorem ofScan_eq_of_edits {ts ts' : List Tree} {scan scan' : Scan} (hscan : Scan.Yields scan ts)
    (hscan' : Scan.Yields scan' ts') :
    (Relation.ReflTransGen (EditInRoot .scpd) ts ts' →
        ServiceDescription.ofScan scan = ServiceDescription.ofScan scan') ∧
      (Relation.ReflTransGen (EditInRoot .root) ts ts' →
        DeviceDescription.ofScan scan = DeviceDescription.ofScan scan') := by
  constructor
  · intro hedits
    rw [ServiceDescription.ofScan, ServiceDescription.ofScan,
      Node.ofScan_eq_of_reflTransGen hscan hscan' hedits]
  · intro hedits
    rw [DeviceDescription.ofScan, DeviceDescription.ofScan,
      Node.ofScan_eq_of_reflTransGen hscan hscan' hedits]

namespace VendorElement

/-- The trees of a service's document, given what stands in its only action. -/
def service (inside : List Tree) : List Tree :=
  [.element ⟨"scpd", []⟩ [.element ⟨"actionList", []⟩ [.element ⟨"action", []⟩ inside]]]

/-- The trees of a device's document, given what stands in the device. -/
def device (inside : List Tree) : List Tree :=
  [.element ⟨"root", []⟩ [.element ⟨"device", []⟩ inside]]

def play : Tree :=
  .element ⟨"name", []⟩ [.text "Play"]

/-- An element in which another action and a device seem to stand. -/
def extra : Tree :=
  .element ⟨"x", []⟩ [.element ⟨"action", []⟩ [.element ⟨"name", []⟩ [.text "Stop"]],
    .empty ⟨"device", []⟩]

theorem editInRoot_service {inside inside' : List Tree} (hedit : Edit (some .action) inside inside') :
    EditInRoot .scpd (service inside) (service inside') := by
  have hplace : ((some NodeKind.scpd).bind fun kind => kind.childNamed? "actionList").bind
      (fun kind => kind.childNamed? "action") = some .action := by decide
  refine .here [] [] _ (by decide) (by decide) (.within _ [] [] _ (.within _ [] [] _ ?_))
  rw [hplace]
  exact hedit

theorem editInRoot_device {inside inside' : List Tree} (hedit : Edit (some .device) inside inside') :
    EditInRoot .root (device inside) (device inside') := by
  have hplace : (some NodeKind.root).bind (fun kind => kind.childNamed? "device") =
      some .device := by decide
  refine .here [] [] _ (by decide) (by decide) (.within _ [] [] _ ?_)
  rw [hplace]
  exact hedit

/-- What is added to an action is no second action, and what is added to a device no second device. -/
theorem parse_extended :
    ServiceDescription.parse
        "<scpd><actionList><action><name>Play</name><argumentList/></action></actionList></scpd>" =
      ServiceDescription.parse ("<scpd><actionList><action><name>Play</name><x><action>" ++
        "<name>Stop</name></action><device/></x><argumentList></argumentList></action>" ++
        "</actionList></scpd>") ∧
    DeviceDescription.parse "<root><device><UDN>1</UDN></device></root>" =
      DeviceDescription.parse ("<root><device><x><action><name>Stop</name></action><device/></x>" ++
        "<UDN>1</UDN></device></root>") := by
  let list : Element := ⟨"argumentList", []⟩
  let udn : Tree := .element ⟨"UDN", []⟩ [.text "1"]
  have hadded : EditInRoot .scpd (service [play, .empty list]) (service [play, extra, .empty list]) :=
    editInRoot_service (.insert .action [play] [.empty list] extra ⟨"x", []⟩ rfl (by decide))
  have hwritten : EditInRoot .scpd (service [play, extra, .empty list])
      (service [play, extra, .element list []]) :=
    editInRoot_service (.writeOut _ [play, extra] [] list)
  have hdevice : EditInRoot .root (device [udn]) (device [extra, udn]) :=
    editInRoot_device (.insert .device [] [udn] extra ⟨"x", []⟩ rfl (by decide))
  constructor
  · exact (ofScan_eq_of_edits ⟨by decide +kernel, 87, by decide +kernel⟩
      ⟨by decide +kernel, 151, by decide +kernel⟩).1 (.tail (.single hadded) hwritten)
  · exact (ofScan_eq_of_edits ⟨by decide +kernel, 42, by decide +kernel⟩
      ⟨by decide +kernel, 92, by decide +kernel⟩).2 (.single hdevice)

end VendorElement

end ControlPoint.Description
