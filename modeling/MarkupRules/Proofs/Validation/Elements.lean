import MarkupRules.Proofs.Markup.DataTree
import MarkupRules.Proofs.Schema.Model
import MarkupRules.Proofs.Validation.Paths
import MarkupRules.Proofs.Validation.Refinement
import MarkupRules.Validation.Validator

/-!
From the elements of a text to the visits of its data tree.

`Leads` goes down the elements and the rules together, without the tree between them. Where
it arrives, the data of the element is visited under its rule.
-/
namespace MarkupRules.Validation

open Markup (Node Element Describes)
open Schema (Rule)

/-- `Leads enter e rule site x rule'`: the declared tags `site` lead from the element `e` under
`rule` to the element `x` under `rule'`. A tag that comes several times is followed only if its rule
may repeat, and a child only if `enter` lets its name in. -/
inductive Leads (enter : Element → String → Prop) :
    Element → Rule → List Step → Element → Rule → Prop where
  | here (e : Element) (rule : Rule) : Leads enter e rule [] e rule
  | lone {e c x : Element} {rule child rule' : Rule} {name : String} {site : List Step}
      (hEnter : enter e name) (hNamed : e.childrenNamed name = [c])
      (hRule : rule.child? name = some child) (below : Leads enter c child site x rule') :
      Leads enter e rule (.tag name :: site) x rule'
  | repeated {e c x : Element} {rule child rule' : Rule} {name : String} {index : Nat}
      {site : List Step} (hEnter : enter e name) (hSeveral : 2 ≤ (e.childrenNamed name).length)
      (hNamed : (e.childrenNamed name)[index]? = some c) (hRule : rule.child? name = some child)
      (hRepeatable : child.isRepeatable = true) (below : Leads enter c child site x rule') :
      Leads enter e rule (.tag name :: .item index :: site) x rule'

namespace Leads

variable {enter : Element → String → Prop} {e x : Element} {rule rule' : Rule} {site : List Step}

/-- Tags lead to elements inside only. Which names are let in does not matter for that. -/
theorem contains (h : Leads enter e rule site x rule') : e.Contains x := by
  induction h with
  | here => exact .self _
  | lone hEnter hNamed hRule below ih =>
    exact .child (Element.mem_childrenNamed.mp (hNamed ▸ List.mem_singleton_self _)).1 ih
  | repeated hEnter hSeveral hNamed hRule hRepeatable below ih =>
    exact .child (Element.mem_children_of_childrenNamed hNamed).1 ih

theorem wellFormed (h : Leads enter e rule site x rule') (hRule : rule.WellFormed) :
    rule'.WellFormed := by
  induction h with
  | here => exact hRule
  | lone hEnter hNamed hChild below ih => exact ih (hRule.child hChild)
  | repeated hEnter hSeveral hNamed hChild hRepeatable below ih => exact ih (hRule.child hChild)

/-- Names that every element inside lets in are no hindrance. So a way that keeps clear of some
names is a way without that restriction. -/
theorem mono {enter' : Element → String → Prop} (h : Leads enter e rule site x rule')
    (hEnter : ∀ y c, e.Contains y → c ∈ y.children → enter' y c.name) :
    Leads enter' e rule site x rule' := by
  induction h with
  | here => exact .here _ _
  | lone _ hNamed hRule below ih =>
    obtain ⟨hChild, hName⟩ := Element.mem_childrenNamed.mp (hNamed ▸ List.mem_singleton_self _)
    refine .lone (hName ▸ hEnter _ _ (.self _) hChild) hNamed hRule (ih fun y d hInside => ?_)
    exact hEnter y d (.child hChild hInside)
  | repeated _ hSeveral hNamed hRule hRepeatable below ih =>
    obtain ⟨hChild, hName⟩ := Element.mem_children_of_childrenNamed hNamed
    refine .repeated (hName ▸ hEnter _ _ (.self _) hChild) hSeveral hNamed hRule hRepeatable
      (ih fun y d hInside => ?_)
    exact hEnter y d (.child hChild hInside)

end Leads

/-- An entry that a rule declares is visited below its mapping. Only its key is looked up, since the
first entry of a name is the one that counts. -/
theorem reached_of_get? {node value : Node} {rule child : Rule} {key path : String} {lone : Bool}
    (hValue : node.get? key = some value) (hChild : rule.child? key = some child) :
    Reached ⟨node, rule, path, lone⟩ [.tag key] ⟨value, child, keyPath path key, true⟩ := by
  obtain ⟨entries, rfl, hLookup⟩ := Node.eq_mapping_of_get? hValue
  exact .tag (Node.mem_of_lookup hLookup) hChild (.here _)

/-- Where declared tags lead, the data of the element is visited under its rule. A child whose key
the text of its parent takes is not among them. -/
theorem reached_of_leads {options : Markup.Options} {e x : Element} {rule rule' : Rule}
    {site : List Step} (h : Leads (Element.LeavesKey options) e rule site x rule')
    (path : String) (lone : Bool) :
    ∃ lone', Reached ⟨e.node options, rule, path, lone⟩ site
      ⟨x.node options, rule', sitePath path site, lone'⟩ := by
  induction h generalizing path lone with
  | here => exact ⟨lone, .here _⟩
  | lone hEnter hNamed hRule below ih =>
    obtain ⟨lone', hBelow⟩ := ih (keyPath path _) true
    have hValue := Element.get?_node_of_childrenNamed hEnter (by simp [hNamed])
    rw [hNamed] at hValue
    exact ⟨lone', (reached_of_get? hValue hRule).trans hBelow⟩
  | @repeated e c _ _ _ _ name index _ hEnter hSeveral hNamed hRule hRepeatable below ih =>
    obtain ⟨lone', hBelow⟩ := ih (itemPath (keyPath path name) index) false
    have hValue := Element.get?_node_of_childrenNamed hEnter
      (List.ne_nil_of_length_pos (by omega))
    rw [Element.ofOccurrences_of_two_le (by simpa using hSeveral)] at hValue
    have hItem : ((e.childrenNamed name).map (Element.node options))[index]? =
        some (c.node options) := by simp [hNamed]
    exact ⟨lone', (reached_of_get? hValue hRule).trans (.item hRepeatable hItem hBelow)⟩

/-- Where declared tags lead from the root of a document, its tree is visited. The first step is to
the root itself, by its name. -/
theorem reached_start_of_leads {options : Markup.Options} {model : Schema.Model}
    {root x : Element} {rule : Rule} {site : List Step} (hRoot : root.name = model.rootName)
    (h : Leads (Element.LeavesKey options) root model.root site x rule) :
    ∃ lone, Reached (.start (.mapping [(root.name, root.node options)]) model)
      (.tag root.name :: site) ⟨x.node options, rule, sitePath root.name site, lone⟩ := by
  obtain ⟨lone, hBelow⟩ := reached_of_leads h root.name true
  have hChild : model.top.child? root.name = some model.root := by
    simp [Schema.Model.top, Rule.child?, Rule.children, hRoot]
  exact ⟨lone, .tag (.head _) hChild hBelow⟩

end MarkupRules.Validation

namespace MarkupRules.Validator

open Validation

/-- What a validator passes to the visits. -/
def setting (v : Validator) : Setting := ⟨v.configuration, v.registry⟩

/-- A document that is read, under a model whose checks are there, has the failures of the visits of
its tree, in the order of the walk. -/
theorem validate_of_parse {v : Validator} {text : String} {d : Markup.Document}
    (hParse : Markup.Document.parse text v.configuration.markup = .ok d)
    (hCovers : v.registry.ensureCovers v.model = .ok ()) :
    v.validate text =
      .ok ((Visit.start d.tree v.model).all.flatMap (Visit.failures v.setting)) := by
  simp only [validate, hParse, validateNode]
  rw [traverse_of_covers hCovers, reports_eq_flatMap]
  rfl

/-- A validation ends with failures only if the document is read and the checks are there. Nothing
else can stop it. -/
theorem validate_eq_ok {v : Validator} {text : String} {failures : List Failure}
    (h : v.validate text = .ok failures) :
    ∃ d, Markup.Document.parse text v.configuration.markup = .ok d ∧
      failures = (Visit.start d.tree v.model).all.flatMap (Visit.failures v.setting) := by
  cases hParse : Markup.Document.parse text v.configuration.markup with
  | error e => simp [validate, hParse] at h
  | ok d =>
    cases hCovers : v.registry.ensureCovers v.model with
    | error e => simp [validate, hParse, validateNode, Validation.traverse, hCovers] at h
    | ok _ =>
      rw [validate_of_parse hParse hCovers] at h
      exact ⟨d, rfl, (Except.ok.inj h).symm⟩

end MarkupRules.Validator
