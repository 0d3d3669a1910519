import MarkdownLint.Proofs.RunPairs
import Mathlib.Data.List.Forall2

/-!
# Trees of the same shape

Two trees have the same shape if they agree in type and span at every place.  The walk then meets
the same shapes in the same order (`walk_sameShape`).  A rule is blind if on such trees over one
text it ends alike and reports alike, the places of its reports looked up in each document
(`Rule.Blind`).  The rules at hand are, so a run of them gives one result on both trees
(`lint_of_sameShape`), also where it fails: neither serials, on which parents and anchors depend,
nor values nor data show in it.
-/

namespace MarkdownLint

namespace Node

/-- The same types and spans at the same places. -/
inductive SameShape : Node → Node → Prop
  | node {a b : Node} (type_eq : a.type = b.type) (span_eq : a.span = b.span)
      (below : List.Forall₂ SameShape a.children b.children) : SameShape a b

theorem SameShape.type_eq {a b : Node} (h : a.SameShape b) : a.type = b.type := by
  cases h
  assumption

theorem SameShape.span_eq {a b : Node} (h : a.SameShape b) : a.span = b.span := by
  cases h
  assumption

theorem SameShape.children {a b : Node} (h : a.SameShape b) :
    List.Forall₂ SameShape a.children b.children := by
  cases h
  assumption

theorem SameShape.isGenerated_eq {a b : Node} (h : a.SameShape b) :
    a.isGenerated = b.isGenerated := by
  simp only [isGenerated, h.span_eq]

theorem forall₂_sameShape_of_allAlike :
    ∀ {ns ms : List Node}, (∀ n ∈ ns, ∀ m, n.alike m → n.SameShape m) → allAlike ns ms →
      List.Forall₂ SameShape ns ms
  | [], [], _, _ => .nil
  | n :: ns, m :: ms, ih, h => by
    simp only [allAlike, Bool.and_eq_true] at h
    exact .cons (ih n List.mem_cons_self m h.1)
      (forall₂_sameShape_of_allAlike (fun k hk => ih k (List.mem_cons_of_mem _ hk)) h.2)
  | [], _ :: _, _, h => by simp [allAlike] at h
  | _ :: _, [], _, h => by simp [allAlike] at h

theorem sameShape_of_alike (a : Node) : ∀ {b : Node}, a.alike b → a.SameShape b := by
  induction a using childInduction with
  | node a ih =>
    intro b h
    obtain ⟨serial, type, children, span, value, data⟩ := a
    obtain ⟨serial', type', children', span', value', data'⟩ := b
    simp only [alike, Bool.and_eq_true, decide_eq_true_eq] at h
    obtain ⟨⟨⟨htype, hspan⟩, -⟩, hchildren⟩ := h
    exact .node htype hspan
      (forall₂_sameShape_of_allAlike (fun n hn m hm => ih n hn hm) hchildren)

end Node

section Visits

open Node

/-- Places that a walk cannot tell apart by types, spans and indexes. -/
structure Visit.SameShape (v w : Visit) : Prop where
  node : v.node.SameShape w.node
  index : v.index = w.index
  parent : Option.Rel Node.SameShape v.parent w.parent

theorem preorderFrom_sameShape {p q : Node} {ns ms : List Node} {i : Nat}
    (h : List.Forall₂ Node.SameShape ns ms)
    (ih : ∀ n ∈ ns, ∀ m, n.SameShape m → ∀ index, List.Forall₂ Visit.SameShape
      (n.preorder index (some p)) (m.preorder index (some q))) :
    List.Forall₂ Visit.SameShape (preorderFrom p i ns) (preorderFrom q i ms) := by
  induction h generalizing i with
  | nil => exact .nil
  | @cons n m ns ms hnm _ ihs =>
    rw [preorderFrom, preorderFrom]
    have hhead := ih n List.mem_cons_self m hnm (some i)
    have htail := ihs (i := i + 1) fun k hk => ih k (List.mem_cons_of_mem _ hk)
    exact List.rel_append hhead htail

theorem preorder_sameShape (a : Node) :
    ∀ {b : Node} {p q : Option Node} (index : Option Nat), a.SameShape b →
      Option.Rel Node.SameShape p q →
      List.Forall₂ Visit.SameShape (a.preorder index p) (b.preorder index q) := by
  induction a using childInduction with
  | node a ih =>
    intro b p q index h hpq
    rw [preorder_eq, preorder_eq]
    refine .cons ⟨h, rfl, hpq⟩ (preorderFrom_sameShape h.children fun n hn m hnm index => ?_)
    exact ih n hn index hnm (.some h)

theorem walk_sameShape {a b : Node} (h : a.SameShape b) :
    List.Forall₂ Visit.SameShape a.walk b.walk := by
  rw [walk_eq_preorder, walk_eq_preorder]
  exact preorder_sameShape a none h .none

end Visits

/-- The same text, with trees of the same shape. -/
structure Document.SameShape (d e : Document) : Prop where
  text_eq : d.text = e.text
  tree : d.tree.SameShape e.tree

namespace Document.SameShape

variable {d e : Document}

theorem location_eq (h : d.SameShape e) : d.location = e.location := by
  rw [d.location_eq, e.location_eq, h.text_eq]

theorem visits (h : d.SameShape e) : List.Forall₂ Visit.SameShape d.visits e.visits := by
  rw [d.visits_eq, e.visits_eq]
  exact walk_sameShape h.tree

theorem place_offset (h : d.SameShape e) (o : Int) : d.place (.offset o) = e.place (.offset o) := by
  simp only [place, h.location_eq]

/-- Nodes with one span are placed there, whatever is above them. -/
theorem place_node (h : d.SameShape e) {n m : Node} (hn : n.span.isSome)
    (hspan : n.span = m.span) (p q : Option Node) :
    d.place (.node n p) = e.place (.node m q) := by
  obtain ⟨s, hs⟩ := Option.isSome_iff_exists.1 hn
  have hm : m.span = some s := hspan ▸ hs
  simp only [place, anchor, hs, hm, rangeOf, h.location_eq]

end Document.SameShape

/-- Reports with one message that two documents place alike. -/
structure Report.Agree (d e : Document) (r q : Report) : Prop where
  message : r.message = q.message
  place : d.place r.place = e.place q.place

/-- The same ending after reports that agree. -/
structure Findings.Agree (d e : Document) (a b : Findings) : Prop where
  ending : a.ending = b.ending
  reports : List.Forall₂ (Report.Agree d e) a.reports b.reports

theorem Findings.Agree.cons {d e : Document} {a b : Findings} {r q : Report}
    (h : a.Agree d e b) (hrq : r.Agree d e q) : (a.cons r).Agree d e (b.cons q) :=
  ⟨h.ending, .cons hrq h.reports⟩

/-- A rule whose checks see no more of a tree than its shape. -/
def Rule.Blind (r : Rule) : Prop :=
  ∀ setting prepared, r.prepare setting = .ok prepared →
    ∀ {d e : Document}, d.SameShape e → (prepared.check d).Agree d e (prepared.check e)

theorem Rule.blind_make {α : Type} {serial : Nat} {id description : String}
    {readOption : Value → Except OptionError α} {toValue : α → Value}
    {check : α → Document → Findings}
    (hcheck : ∀ (option : α) {d e : Document}, d.SameShape e →
      (check option d).Agree d e (check option e)) :
    (Rule.make serial id description readOption toValue check).Blind := by
  intro setting prepared h d e hde
  simp only [make] at h
  rcases hsetting : readOption setting with e' | option <;> rw [hsetting] at h <;> cases h
  exact hcheck option hde

section Linebreaks

/-- The rule on line breaks looks at the text only, and reports offsets. -/
theorem Linebreaks.rule_blind (serial : Nat) : (rule serial).Blind := by
  refine Rule.blind_make fun preferred {d e} h => ?_
  have hcheck : check preferred d = check preferred e := by
    simp only [check, h.text_eq]
  rw [← hcheck]
  refine ⟨rfl, List.forall₂_same.2 fun r hr => ⟨rfl, ?_⟩⟩
  obtain ⟨f, -, hplace⟩ := exists_of_mem_reports hr
  rw [hplace]
  exact h.place_offset f.1

end Linebreaks

namespace BlankLines

variable {o : BlankLineOptions} {d e : Document}

theorem getElem?_sameShape {ns ms : List Node} (h : List.Forall₂ Node.SameShape ns ms) (i : Nat) :
    Option.Rel Node.SameShape ns[i]? ms[i]? := by
  induction h generalizing i with
  | nil => exact .none
  | cons hnm _ ih =>
    cases i with
    | zero => exact .some hnm
    | succ i => exact ih i

theorem following?_sameShape (o : BlankLineOptions) {v w : Visit} (h : v.SameShape w) :
    Option.Rel Node.SameShape (following? o v) (following? o w) := by
  obtain ⟨node, index, parent⟩ := v
  obtain ⟨node', index', parent'⟩ := w
  obtain ⟨hnode, hindex, hparent⟩ := h
  simp only at hnode hindex hparent
  subst hindex
  unfold following?
  cases hparent with
  | none => exact .none
  | @some p q hpq =>
    rcases index with _ | i
    · exact .none
    · simp only [Option.bind_eq_bind, Option.bind_some, hnode.isGenerated_eq, hpq.type_eq]
      split_ifs
      · exact .none
      · have hnext := getElem?_sameShape hpq.children (i + 1)
        generalize p.children[i + 1]? = next at hnext
        generalize q.children[i + 1]? = next' at hnext
        cases hnext with
        | none => exact .none
        | some hnext =>
          simp only [Option.bind_some, hnext.type_eq, hnext.isGenerated_eq]
          split_ifs
          · exact .some hnext
          · exact .none

theorem isAdjacent_eq (h : d.SameShape e) {n m n' m' : Node} (hn : n.SameShape n')
    (hm : m.SameShape m') : isAdjacent d n m = isAdjacent e n' m' := by
  simp only [isAdjacent, Document.startLine, Document.endLine, hn.span_eq, hm.span_eq,
    h.location_eq]

/-- Through the places of two walks that agree, the check finds the same.  What it reports has a
span of its own, so the ways up, which can differ, are not taken. -/
theorem findings_agree (h : d.SameShape e) :
    ∀ {vs ws : List Visit}, List.Forall₂ Visit.SameShape vs ws →
      (findings o d vs).Agree d e (findings o e ws)
  | _, _, .nil => ⟨rfl, .nil⟩
  | v :: vs, w :: ws, .cons hvw hs => by
    have ih := findings_agree h hs
    have hfollowing := following?_sameShape o hvw
    unfold findings
    rcases hv : following? o v with _ | next <;> rcases hw : following? o w with _ | next' <;>
      rw [hv, hw] at hfollowing <;> cases hfollowing
    · exact ih
    · rename_i hnext
      obtain ⟨-, -, -, -, -, -, -, -, hspan⟩ := following?_eq_some_iff.1 hv
      have hreport : Report.Agree d e ⟨message, .node next none⟩ ⟨message, .node next' none⟩ :=
        ⟨rfl, h.place_node hspan hnext.span_eq none none⟩
      simp only [← isAdjacent_eq h hvw.node hnext]
      rcases isAdjacent d v.node next with error | _ | _
      · exact ⟨rfl, .nil⟩
      · exact ih
      · exact ih.cons hreport

theorem rule_blind (serial : Nat) : (rule serial).Blind :=
  Rule.blind_make fun _ _ _ h => findings_agree h h.visits

end BlankLines

namespace Registry

theorem blind_of_mem_builtIn {r : Rule} (h : r ∈ builtIn.rules) : r.Blind := by
  rcases List.mem_cons.1 h with rfl | h
  · exact Linebreaks.rule_blind 0
  · obtain rfl := List.mem_singleton.1 h
    exact BlankLines.rule_blind 1

variable {g : Registry} {d e : Document}

theorem runEntry_of_sameShape (hg : ∀ r ∈ g.rules, r.Blind) (h : d.SameShape e) (id : String)
    (setting : Value) : g.runEntry d id setting = g.runEntry e id setting := by
  rcases hget : g.get id with error | r
  · simp only [runEntry, hget]
  rcases hsplit : splitSetting id setting with error | _ | ⟨severity, option⟩
  · simp only [runEntry, hget, hsplit]
  · simp only [runEntry, hget, hsplit]
  have hr : r.Blind := hg r (get_eq_ok hget).1
  rw [runEntry_on hget hsplit, runEntry_on hget hsplit]
  rw [← EntryOutcome.map_id (Rule.outcome r _ option)]
  refine (Rule.outcome_of_matches (by simp [Rule.sink]) fun prepared hprepare => ?_).symm
  obtain ⟨hending, hreports⟩ := hr option prepared hprepare h
  refine ⟨hreports.imp fun p q hpq => ?_, hending.symm⟩
  obtain ⟨hmessage, hplace⟩ := hpq
  unfold Sink.Matches Sink.diagnose
  simp only [Rule.sink, hmessage, ← hplace]
  rcases d.place p.place <;> rfl

theorem lint_of_sameShape (hg : ∀ r ∈ g.rules, r.Blind) (h : d.SameShape e)
    (c : Option Configuration) : g.lint d c = g.lint e c := by
  have houtcomes : g.outcomes d (c.getD g.defaultConfiguration)
      = g.outcomes e (c.getD g.defaultConfiguration) :=
    List.map_congr_left fun entry _ => by
      simp only [runEntry_of_sameShape hg h]
  rw [lint, lint, houtcomes]

/-- The rules at hand come to one result, failures and their messages included, on trees that are
alike, and even on trees of the same shape. -/
theorem lint_alike (text : String) (c : Option Configuration) (a b : Node) :
    (a.alike b → builtIn.lint { text, tree := a } c = builtIn.lint { text, tree := b } c)
    ∧ (a.SameShape b →
      builtIn.lint { text, tree := a } c = builtIn.lint { text, tree := b } c) := by
  have hshape : a.SameShape b →
      builtIn.lint { text, tree := a } c = builtIn.lint { text, tree := b } c := fun h =>
    lint_of_sameShape (d := { text, tree := a }) (e := { text, tree := b })
      (fun _ => blind_of_mem_builtIn) ⟨rfl, h⟩ c
  exact ⟨fun h => hshape (Node.sameShape_of_alike a h), hshape⟩

/-- Two paragraphs, the second past the end of the text, around one text or around two that look
the same, with and without data; and with another value in one of the texts.  All come to one
failure. -/
theorem lint_alike_shared :
    ∃ shared apart changed : Node,
      shared = ⟨3, "root", [⟨1, "paragraph", [⟨0, "text", [], none, some "x", []⟩],
          some ⟨0, 1, by decide⟩, none, []⟩, ⟨2, "paragraph", [⟨0, "text", [], none, some "x", []⟩],
          some ⟨9, 9, by decide⟩, none, []⟩], none, none, []⟩
      ∧ apart = ⟨4, "root", [⟨1, "paragraph", [⟨0, "text", [], none, some "x", []⟩],
          some ⟨0, 1, by decide⟩, none, [("k", .int 1)]⟩,
          ⟨3, "paragraph", [⟨2, "text", [], none, some "x", []⟩],
          some ⟨9, 9, by decide⟩, none, []⟩], none, none, []⟩
      ∧ changed = ⟨4, "root", [⟨1, "paragraph", [⟨0, "text", [], none, some "y", []⟩],
          some ⟨0, 1, by decide⟩, none, []⟩, ⟨3, "paragraph", [⟨2, "text", [], none, some "x", []⟩],
          some ⟨9, 9, by decide⟩, none, []⟩], none, none, []⟩
      ∧ shared.alike apart ∧ ¬ shared.alike changed ∧ shared.SameShape changed
      ∧ builtIn.lint { text := "a\nb", tree := shared } (some [("no-missing-blank-lines", .null)])
        = builtIn.lint { text := "a\nb", tree := apart } (some [("no-missing-blank-lines", .null)])
      ∧ builtIn.lint { text := "a\nb", tree := shared } (some [("no-missing-blank-lines", .null)])
        = builtIn.lint { text := "a\nb", tree := changed }
          (some [("no-missing-blank-lines", .null)])
      ∧ builtIn.lint { text := "a\nb", tree := shared } (some [("no-missing-blank-lines", .null)])
        = ⟨[], [⟨"no-missing-blank-lines", "OutOfRangeError",
          "Offset 9 is outside the document (0..3)", .fatal⟩]⟩ := by
  refine ⟨_, _, _, rfl, rfl, rfl, ?_⟩
  generalize hshared : (⟨3, "root", _, _, _, _⟩ : Node) = shared
  generalize hapart : (⟨4, "root", _, _, _, _⟩ : Node) = apart
  generalize hchanged : (⟨4, "root", _, _, _, _⟩ : Node) = changed
  have halike : shared.alike apart := by
    subst hshared hapart
    rfl
  have hshape : shared.SameShape changed := by
    subst hshared hchanged
    exact .node rfl rfl (.cons (.node rfl rfl (.cons (.node rfl rfl .nil) .nil))
      (.cons (.node rfl rfl (.cons (.node rfl rfl .nil) .nil)) .nil))
  have hdocument : ({ text := "a\nb", tree := shared } : Document)
      = { text := "a\nb", tree := shared, visits := shared.preorder none none,
          visits_eq := shared.walk_eq_preorder.symm } := by
    simp only [Node.walk_eq_preorder]
  refine ⟨halike, ?_, hshape, (lint_alike _ _ _ _).1 halike, (lint_alike _ _ _ _).2 hshape, ?_⟩
  · subst hshared hchanged
    decide
  · rw [hdocument]
    subst hshared
    decide +kernel

end Registry

end MarkdownLint
