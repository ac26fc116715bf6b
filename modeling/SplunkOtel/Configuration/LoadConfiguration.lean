import SplunkOtel.Configuration.ConvertSubstitution
import SplunkOtel.Configuration.Substitute
import SplunkOtel.Js.Value
import SplunkOtel.Lib.KeyedTree
import Mathlib.Data.List.Forall2

/-!
# Loading the config file (`src/configuration.ts`)

The scalars of the parsed document are substituted and converted in place, before the document is
made an object.
-/

open Lib

namespace SplunkOtel.Configuration.Document

open Js Substitute

inductive ScalarType where
  | PLAIN
  | QUOTE_DOUBLE
  | QUOTE_SINGLE
  | BLOCK_FOLDED
  | BLOCK_LITERAL
deriving DecidableEq

structure Scalar where
  value : ScalarValue
  type : ScalarType := .PLAIN

abbrev Node := KeyedTree Scalar

/-- The `yaml` library. -/
structure Yaml where
  Error : Type
  /-- The errors of a document and its contents. -/
  parseDocument : String → List Error × Node
  visit : (Role → Scalar → Scalar) → Node → Node
  /-- The visitor gets every scalar of the document with its key. -/
  visit_eq : ∀ visitor doc, visit visitor doc = doc.walk visitor .root
  toString : Node → String
  toJS : Node → Value

section Loading

variable (yaml : Yaml) (environ : String → Option String)

def substituteScalar (node : Scalar) : Scalar :=
  match node.value with
  | .string value =>
    let sub := envSubstitute value environ
    if node.type ≠ .QUOTE_DOUBLE then { node with value := convertSubstitution sub }
    else { node with value := .string sub }
  | _ => node

/-- The visitor of the scalars. -/
def visitScalar (role : Role) (node : Scalar) : Scalar :=
  if role ≠ .value then node else substituteScalar environ node

def visitDocument (doc : Node) : Node := yaml.visit (visitScalar environ) doc

/-- The raw configuration and the configuration. -/
def loadConfiguration (content : String) : Except yaml.Error (String × Value) :=
  let parsed := yaml.parseDocument content
  match parsed.1 with
  | error :: _ => .error error
  | [] =>
    let doc := visitDocument yaml environ parsed.2
    .ok (yaml.toString doc, yaml.toJS doc)

/-! ## Which scalars are substituted -/

/-- Values of maps and items of sequences. -/
def inValuePosition : Role → Bool
  | .root => false
  | .key => false
  | .value => true
  | .index _ => true

/-- The scalars in value position are substituted, and no others. -/
def substituteValues (doc : Node) : Node :=
  doc.walk (fun role node => if inValuePosition role then substituteScalar environ node else node)
    .root

def SubstitutesValues (doc : Node) : Prop :=
  visitDocument yaml environ doc = substituteValues environ doc ∧
    (visitDocument yaml environ doc).shape = doc.shape

theorem visitScalar_eq_iff (role : Role) (node : Scalar) :
    visitScalar environ role node =
        (if inValuePosition role then substituteScalar environ node else node) ↔
      ∀ i, role = .index i → substituteScalar environ node = node := by
  unfold visitScalar
  cases role with
  | root => simp [inValuePosition]
  | key => simp [inValuePosition]
  | value => simp [inValuePosition]
  | index i => simp [inValuePosition, eq_comm]

theorem visitDocument_eq_iff (doc : Node) :
    visitDocument yaml environ doc = substituteValues environ doc ↔
      ∀ e ∈ doc.scalars .root, ∀ i, e.1 = .index i → substituteScalar environ e.2 = e.2 := by
  unfold visitDocument substituteValues
  rw [yaml.visit_eq, KeyedTree.walk_eq_iff]
  exact forall₂_congr fun e _ => visitScalar_eq_iff environ e.1 e.2

/-- **Values are substituted.** The scalars in value position are substituted, and nothing else is
changed, exactly when no item of a sequence would be changed. -/
theorem values_substituted_iff (doc : Node) :
    SubstitutesValues yaml environ doc ↔
      ∀ e ∈ doc.scalars .root, ∀ i, e.1 = .index i → substituteScalar environ e.2 = e.2 := by
  have hshape : (visitDocument yaml environ doc).shape = doc.shape := by
    unfold visitDocument
    rw [yaml.visit_eq, KeyedTree.shape_walk]
  unfold SubstitutesValues
  rw [and_iff_left hshape, visitDocument_eq_iff]

/-- The scalar is the text that it had, substituted where it is the value of a map, or what that
text is a literal of. -/
def Faithful (role : Role) (before after : Scalar) : Prop :=
  ∀ text, before.value = .string text →
    Denotes (if role = .value then envSubstitute text environ else text) after.value

/-- The scalars of the document are converted without loss. -/
def LoadsLossless (doc : Node) : Prop :=
  List.Forall₂ (fun before after => Faithful environ before.1 before.2 after.2)
    (doc.scalars .root) ((visitDocument yaml environ doc).scalars .root)

theorem value_substituteScalar {node : Scalar} {text : String} (h : node.value = .string text) :
    (substituteScalar environ node).value =
      if node.type ≠ .QUOTE_DOUBLE then convertSubstitution (envSubstitute text environ)
      else .string (envSubstitute text environ) := by
  unfold substituteScalar
  rw [h]
  simp only
  split
  · rfl
  · rfl

theorem faithful_iff (role : Role) (node : Scalar) :
    Faithful environ role node (visitScalar environ role node) ↔
      (role = .value → node.type ≠ .QUOTE_DOUBLE → ∀ text, node.value = .string text →
        WholeLiteral (envSubstitute text environ)) := by
  unfold Faithful visitScalar
  by_cases hvalue : role = .value
  · simp only [hvalue, ne_eq, not_true_eq_false, if_false, if_true, forall_const]
    by_cases hquoted : node.type = .QUOTE_DOUBLE
    · refine iff_of_true (fun text htext => ?_) (fun h => absurd hquoted h)
      rw [value_substituteScalar environ htext, if_neg (by simp [hquoted])]
      rfl
    · simp only [hquoted, not_false_eq_true, forall_const]
      refine forall₂_congr fun text htext => ?_
      rw [value_substituteScalar environ htext, if_pos hquoted, ← lossless_iff]
      rfl
  · simp only [hvalue, ne_eq, not_false_eq_true, if_true, if_false, false_implies, iff_true]
    intro text htext
    rw [htext]
    rfl

/-- **Conversion without loss.** A text is converted without loss exactly when it is a literal as a
whole or does not start like one. A document is loaded without loss exactly when that holds of every
text that is converted in it. -/
theorem conversion_lossless_iff :
    (∀ s, Lossless s ↔ WholeLiteral s) ∧
      ∀ doc, LoadsLossless yaml environ doc ↔
        ∀ e ∈ doc.scalars .root, e.1 = .value → e.2.type ≠ .QUOTE_DOUBLE →
          ∀ text, e.2.value = .string text → WholeLiteral (envSubstitute text environ) := by
  refine ⟨lossless_iff, fun doc => ?_⟩
  unfold LoadsLossless visitDocument
  rw [yaml.visit_eq, KeyedTree.scalars_walk, List.forall₂_map_right_iff, List.forall₂_same]
  exact forall₂_congr fun e _ => faithful_iff environ e.1 e.2

end Loading

/-- `1.2.3` becomes the number 1.2. -/
theorem version_truncated : ¬ Lossless "1.2.3" := by
  rw [lossless_iff]
  intro h
  exact absurd (h rfl) (by decide)

/-- A library with one document. -/
def yamlOf (doc : Node) : Yaml where
  Error := Unit
  parseDocument _ := ([], doc)
  visit visitor doc := doc.walk visitor .root
  visit_eq _ _ := rfl
  toString _ := ""
  toJS _ := .undefined

/-- `headers: [ "${TOKEN}" ]` -/
def listedToken : Node :=
  .map [(.scalar { value := .string "headers" },
    .seq [.scalar { value := .string "${TOKEN}", type := .QUOTE_DOUBLE }])]

/-- `token: "${TOKEN}"` and `names: [ "a" ]`, in quotes -/
def tokenAndNames : Node :=
  .map [(.scalar { value := .string "token" },
      .scalar { value := .string "${TOKEN}", type := .QUOTE_DOUBLE }),
    (.scalar { value := .string "names" },
      .seq [.scalar { value := .string "a", type := .QUOTE_DOUBLE }])]

/-- The item of a sequence stays as it is. -/
theorem item_not_substituted :
    ¬ SubstitutesValues (yamlOf listedToken) (fun _ => some "secret") listedToken := by
  rintro ⟨h, -⟩
  have hvalue : ScalarValue.string "${TOKEN}" =
      .string (envSubstitute "${TOKEN}" fun _ => some "secret") := by
    simpa [visitDocument, yamlOf, listedToken, substituteValues, KeyedTree.walk,
      KeyedTree.walkPairs, KeyedTree.walkItems, visitScalar, inValuePosition,
      substituteScalar] using h
  have htext := congrArg String.toList (ScalarValue.string.inj hvalue)
  rw [envSubstitute_eq] at htext
  revert htext
  decide

end SplunkOtel.Configuration.Document
