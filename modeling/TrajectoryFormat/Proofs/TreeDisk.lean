import TrajectoryFormat.Proofs.Checked
import TrajectoryFormat.Proofs.LawfulDisk

/-!
# The tree as a disk

A change of the entry under one name of a tree leaves what stands at all other places, and the disk
that is a tree keeps to the contract of disks. So does the same disk where files have only so much
room, which takes of a text what fits.
-/

namespace TrajectoryFormat.Load.Node

open Checked

variable {entries entries' : List (Text × Node)} {name : Text} {node node' : Node}
  {place : List Text}

/-! ## Entries by name -/

@[simp] theorem childNamed?_cons (first : Text × Node) (entries : List (Text × Node))
    (name : Text) :
    childNamed? (first :: entries) name
      = if first.1 = name then some first.2 else childNamed? entries name := by
  by_cases here : first.1 = name <;> simp [childNamed?, here]

theorem childNamed?_setEntry (entries : List (Text × Node)) (name : Text) (node : Node) :
    childNamed? (setEntry entries name node)
      = Function.update (childNamed? entries) name (some node) := by
  funext other
  induction entries with
  | nil =>
    rw [setEntry, childNamed?_cons, Function.update_apply]
    simp only [eq_comm]
  | cons first entries ih =>
    rw [setEntry, Function.update_apply] at *
    by_cases here : first.1 = name
    · rw [if_pos (beq_iff_eq.mpr here), childNamed?_cons, childNamed?_cons, here]
      simp only [eq_comm]
      split <;> rfl
    · rw [if_neg (by simpa using here), childNamed?_cons, childNamed?_cons, ih]
      grind

theorem childNamed?_dropEntry (entries : List (Text × Node)) (name : Text) :
    childNamed? (dropEntry entries name) = Function.update (childNamed? entries) name none := by
  funext other
  rw [Function.update_apply, childNamed?, dropEntry, List.find?_filter]
  split
  · next same => simp [same]
  · next apart =>
    rw [childNamed?]
    congr 2
    funext entry
    grind

/-! ## Places -/

def kind : Node → Entry
  | file content => .file content
  | directory _ => .directory

/-- What is found on the way of the names. -/
def seen (node : Node) (place : List Text) : Option Entry := (node.find place).toOption.map kind

/-- What stands at a place of a tree, which is a directory itself. -/
def entryAt (node : Node) (place : List Text) : Option Entry :=
  if place = [] then some .directory else node.seen place

theorem seen_directory (entries : List (Text × Node)) (name : Text) (rest : List Text) :
    (directory entries).seen (name :: rest) = (childNamed? entries name).bind (·.seen rest) := by
  rw [seen, find]
  cases childNamed? entries name <;> rfl

/-! ## Edits -/

/-- What stands under a name in a directory. -/
def entryNamed? (entries : List (Text × Node)) (name : Text) : Option Entry :=
  (childNamed? entries name).map kind

/-- What an edit does with the entry under a name: neither the entry before nor that after it is a
directory, and `rule` holds between them. -/
structure LeafEdit (rule : Option Entry → Option Entry → Prop) (entries : List (Text × Node))
    (name : Text) (entries' : List (Text × Node)) : Prop where
  before : entryNamed? entries name ≠ some .directory
  after : entryNamed? entries' name ≠ some .directory
  rule : rule (entryNamed? entries name) (entryNamed? entries' name)
  others : ∀ other ≠ name, childNamed? entries' other = childNamed? entries other

theorem leafEdit_setEntry {rule : Option Entry → Option Entry → Prop} {content : Content}
    (before : entryNamed? entries name ≠ some .directory)
    (made : rule (entryNamed? entries name) (some (.file content))) :
    LeafEdit rule entries name (setEntry entries name (file content)) := by
  have after : entryNamed? (setEntry entries name (file content)) name = some (.file content) := by
    rw [entryNamed?, childNamed?_setEntry, Function.update_self]
    rfl
  refine ⟨before, by rw [after]; nofun, by rwa [after], fun other apart => ?_⟩
  rw [childNamed?_setEntry, Function.update_of_ne apart]

theorem leafEdit_putFile {content : Content}
    (edited : putFile content entries name = .ok entries') :
    LeafEdit (fun _ after => after = some (.file content)) entries name entries' := by
  rw [putFile] at edited
  split at edited
  · cases edited
  · next free =>
    cases edited
    refine leafEdit_setEntry ?_ rfl
    rw [entryNamed?]
    rcases named : childNamed? entries name with _ | content | inner
    · nofun
    · nofun
    · exact absurd named (free inner)

/-- What an addition to a file of text makes of it. -/
def Extends (more : Text) (before after : Option Entry) : Prop :=
  ∀ s, before = some (.file (.text s)) → after = some (.file (.text (s ++ more)))

theorem leafEdit_appendTo {more : Text} (edited : appendTo more entries name = .ok entries') :
    LeafEdit (Extends more) entries name entries' := by
  rw [appendTo] at edited
  split at edited
  · next s named =>
    cases edited
    refine leafEdit_setEntry (by rw [entryNamed?, named]; nofun) fun t same => ?_
    rw [entryNamed?, named] at same
    cases same
    rfl
  · next raw named =>
    cases edited
    refine leafEdit_setEntry (by rw [entryNamed?, named]; nofun) fun t same => ?_
    rw [entryNamed?, named] at same
    cases same
  · cases edited
  · cases edited

theorem leafEdit_removeFrom (edited : removeFrom entries name = .ok entries') :
    LeafEdit (fun _ after => after = none) entries name entries' := by
  rw [removeFrom] at edited
  split at edited
  · next content named =>
    cases edited
    have after : entryNamed? (dropEntry entries name) name = none := by
      rw [entryNamed?, childNamed?_dropEntry, Function.update_self]
      rfl
    refine ⟨by rw [entryNamed?, named]; nofun, by rw [after]; nofun, after, fun other apart => ?_⟩
    rw [childNamed?_dropEntry, Function.update_of_ne apart]
  · cases edited
  · cases edited

/-! ## Changes -/

/-- What an edit of the entry at a place does with the tree. -/
structure LeafChange (rule : Option Entry → Option Entry → Prop) (node : Node) (place : List Text)
    (node' : Node) :
    Prop where
  inside : place ≠ []
  before : node.seen place ≠ some .directory
  after : node'.seen place ≠ some .directory
  rule : rule (node.seen place) (node'.seen place)
  others : ∀ other ≠ place, node'.seen other = node.seen other

@[simp] theorem seen_directory_singleton (entries : List (Text × Node)) (name : Text) :
    (directory entries).seen [name] = entryNamed? entries name := by
  rw [seen_directory, entryNamed?]
  cases childNamed? entries name <;> rfl

/-- Below what is no directory there is nothing. -/
theorem seen_below {rest : List Text} (leaf : entryNamed? entries name ≠ some .directory)
    (inside : rest ≠ []) :
    (directory entries).seen (name :: rest) = none := by
  obtain ⟨next, rest, rfl⟩ := List.exists_cons_of_ne_nil inside
  rw [seen_directory]
  rcases named : childNamed? entries name with _ | content | inner
  · rfl
  · rfl
  · rw [entryNamed?, named] at leaf
    exact absurd rfl leaf

variable {rule : Option Entry → Option Entry → Prop}
  {edit : List (Text × Node) → Text → Except FileFault (List (Text × Node))}

/-- An edit of one entry, wherever in the tree, is a change of that place. -/
theorem change_leaf (edits : ∀ {entries name entries'}, edit entries name = .ok entries' →
      LeafEdit rule entries name entries') (changed : node.change edit place = .ok node') :
    LeafChange rule node place node' := by
  fun_induction change node edit place generalizing node' with
  | case1 => cases changed
  | case2 => cases changed
  | case3 name entries =>
    obtain ⟨entries', edited, rfl⟩ := map_eq_ok.mp changed
    have edit := edits edited
    refine ⟨List.cons_ne_nil name [], ?_, ?_, ?_, fun other apart => ?_⟩
    · rw [seen_directory_singleton]
      exact edit.before
    · rw [seen_directory_singleton]
      exact edit.after
    · rw [seen_directory_singleton, seen_directory_singleton]
      exact edit.rule
    · rcases other with _ | ⟨first, rest⟩
      · rfl
      by_cases same : first = name
      · subst same
        have inside : rest ≠ [] := fun none => apart (by rw [none])
        rw [seen_below edit.before inside, seen_below edit.after inside]
      · rw [seen_directory, seen_directory, edit.others first same]
  | case4 => cases changed
  | case5 name rest _ entries child named ih =>
    obtain ⟨child', changed', rfl⟩ := map_eq_ok.mp changed
    have inner := ih changed'
    have before : ∀ other, (directory entries).seen (name :: other) = child.seen other := by
      intro other
      rw [seen_directory, named]
      rfl
    have after : ∀ other, (directory (setEntry entries name child')).seen (name :: other)
        = child'.seen other := by
      intro other
      rw [seen_directory, childNamed?_setEntry, Function.update_self]
      rfl
    refine ⟨List.cons_ne_nil name rest, ?_, ?_, ?_, fun other apart => ?_⟩
    · rw [before]
      exact inner.before
    · rw [Function.comp, after]
      exact inner.after
    · rw [Function.comp, before, after]
      exact inner.rule
    · rcases other with _ | ⟨first, below⟩
      · rfl
      by_cases same : first = name
      · subst same
        rw [Function.comp, before, after]
        exact inner.others below fun eq => apart (by rw [eq])
      · rw [Function.comp, seen_directory, seen_directory, childNamed?_setEntry,
          Function.update_of_ne same]
  | case6 => cases changed

/-- An edit that is done on every file is done wherever in the tree a file stands. -/
theorem exists_change {content : Content}
    (edits : ∀ {entries name}, childNamed? entries name = some (file content) →
      ∃ entries', edit entries name = .ok entries')
    (inside : place ≠ []) (standing : node.seen place = some (.file content)) :
    ∃ node', node.change edit place = .ok node' := by
  fun_induction change node edit place with
  | case1 => exact absurd rfl inside
  | case2 => cases standing
  | case3 name entries =>
    rw [seen_directory_singleton, entryNamed?] at standing
    rcases named : childNamed? entries name with _ | other | inner <;> rw [named] at standing <;>
      cases standing
    obtain ⟨entries', edited⟩ := edits named
    exact ⟨directory entries', by rw [edited]; rfl⟩
  | case4 => cases standing
  | case5 name rest below entries child named ih =>
    rw [seen_directory, named] at standing
    obtain ⟨child', changed⟩ := ih below standing
    exact ⟨directory (setEntry entries name child'), by rw [changed]; rfl⟩
  | case6 name rest _ entries missing =>
    rw [seen_directory, missing] at standing
    cases standing

/-! ## The contract -/

/-- A tree as a disk shows the files in it. They hold at once what they have taken. -/
def treeView : View Node where
  entry := entryAt
  taken node place text := node.entryAt place = some (.file (.text text))

theorem entryAt_of_ne_nil (node : Node) (inside : place ≠ []) :
    node.entryAt place = node.seen place := if_neg inside

theorem ne_nil_of_file {content : Content} (standing : node.entryAt place = some (.file content)) :
    place ≠ [] := by
  rintro rfl
  cases standing

theorem withoutFile_eq_none {entry : Option Entry} (leaf : entry ≠ some .directory) :
    Entry.withoutFile entry = none := by
  rcases entry with _ | _ | _
  · rfl
  · rfl
  · exact absurd rfl leaf

namespace LeafChange

theorem entryAt_rule (change : LeafChange rule node place node') :
    rule (node.entryAt place) (node'.entryAt place) := by
  rw [entryAt_of_ne_nil _ change.inside, entryAt_of_ne_nil _ change.inside]
  exact change.rule

theorem entryAt_others (change : LeafChange rule node place node') :
    ∀ other ≠ place, node'.entryAt other = node.entryAt other := by
  intro other apart
  rw [entryAt, entryAt, change.others other apart]

theorem confined (change : LeafChange rule node place node') :
    treeView.Confined place node node' where
  here := by
    change Entry.withoutFile (node'.entryAt place) = Entry.withoutFile (node.entryAt place)
    rw [entryAt_of_ne_nil _ change.inside, entryAt_of_ne_nil _ change.inside,
      withoutFile_eq_none change.before, withoutFile_eq_none change.after]
  others := change.entryAt_others

end LeafChange

/-- The outcome of a change, and the tree after it. -/
def outcome (node : Node) : Except FileFault Node → Except Refusal Unit × Node
  | .ok changed => (.ok (), changed)
  | .error fault => (.error fault.message, node)

@[simp] theorem run_writing (change : Node → Except FileFault Node) (node : Node) :
    (writing change).run node = outcome node (change node) := rfl

/-- A change of one place is a step in the writing there. -/
theorem writes_writing {done : Node → Prop}
    (edits : ∀ {entries name entries'}, edit entries name = .ok entries' →
      LeafEdit rule entries name entries')
    (follows : ∀ {node'}, rule (node.entryAt place) (node'.entryAt place) → done node') :
    treeView.Writes place node done ((writing fun node => node.change edit place).run node) := by
  rw [run_writing]
  cases changed : node.change edit place with
  | error fault => exact ⟨.refl treeView place node, nofun⟩
  | ok node' =>
    have change := change_leaf edits changed
    exact ⟨change.confined, fun _ => follows change.entryAt_rule⟩

theorem exists_removeFrom {content : Content}
    (named : childNamed? entries name = some (file content)) :
    ∃ entries', removeFrom entries name = .ok entries' :=
  ⟨dropEntry entries name, by rw [removeFrom, named]⟩

/-- A file that can be put in its new place can be taken from the old one. -/
theorem moves_rename {source target : Text} {content : Content}
    (apart : Path.names source ≠ Path.names target)
    (standing : node.entryAt (Path.names source) = some (.file content)) :
    treeView.Moves (Path.names source) (Path.names target) node
      ((disk.rename source target).run node) := by
  have inside := ne_nil_of_file standing
  have found : node.find (Path.names source) = .ok (file content) := by
    rw [entryAt_of_ne_nil node inside, seen] at standing
    rcases found : node.find (Path.names source) with fault | other | inner <;>
      rw [found] at standing <;> cases standing
    rfl
  have steps : node.rename source target
      = node.change (putFile content) (Path.names target)
        >>= (·.change removeFrom (Path.names source)) := by
    rw [rename, found]
    rfl
  rw [show disk.rename source target = writing (·.rename source target) from rfl,
    run_writing, steps]
  cases put : node.change (putFile content) (Path.names target) with
  | error fault => exact .refused rfl
  | ok node₁ =>
    have change₁ := change_leaf leafEdit_putFile put
    have still : node₁.seen (Path.names source) = some (.file content) := by
      rw [change₁.others _ apart, ← entryAt_of_ne_nil node inside, standing]
    obtain ⟨node₂, taken⟩ := exists_change exists_removeFrom inside still
    have change₂ := change_leaf leafEdit_removeFrom taken
    rw [show (.ok node₁ >>= (·.change removeFrom (Path.names source)) : Except FileFault Node)
      = .ok node₂ from taken]
    refine .done ?_ change₂.entryAt_rule fun other notSource notTarget => ?_
    · calc node₂.entryAt (Path.names target)
          = node₁.entryAt (Path.names target) := change₂.entryAt_others _ apart.symm
        _ = some (.file content) := change₁.entryAt_rule
        _ = node.entryAt (Path.names source) := standing.symm
    · exact (change₂.entryAt_others other notSource).trans (change₁.entryAt_others other notTarget)

/-- A regular file is removed, and nothing else. -/
theorem removed_removeFile (path : Text) (node : Node) :
    ∃ answer node', (disk.removeFile path).run node = (answer, node')
      ∧ node'.entryAt (Path.names path) = Entry.withoutFile (node.entryAt (Path.names path))
      ∧ ∀ other ≠ Path.names path, node'.entryAt other = node.entryAt other := by
  rw [show disk.removeFile path = writing (·.change removeFrom (Path.names path)) from rfl,
    run_writing]
  cases changed : node.change removeFrom (Path.names path) with
  | error fault =>
    refine ⟨_, _, rfl, ?_, fun _ _ => rfl⟩
    rcases standing : node.entryAt (Path.names path) with _ | content | _
    · rfl
    · -- a file would have been removed
      have inside := ne_nil_of_file standing
      rw [entryAt_of_ne_nil node inside] at standing
      obtain ⟨node', done⟩ := exists_change exists_removeFrom inside standing
      cases changed.symm.trans done
    · rfl
  | ok node' =>
    have change := change_leaf leafEdit_removeFrom changed
    refine ⟨_, _, rfl, ?_, change.entryAt_others⟩
    rw [change.entryAt_rule, entryAt_of_ne_nil node change.inside,
      withoutFile_eq_none change.before]

theorem lawful_disk : disk.Lawful treeView where
  created _ _ := writes_writing leafEdit_putFile id
  appended _ _ _ text taken := writes_writing leafEdit_appendTo fun extended => extended text taken
  finished path node _ taken := ⟨.refl treeView (Path.names path) node, fun _ => taken⟩
  renamed _ _ _ _ apart standing := moves_rename apart standing
  removed := removed_removeFile

/-! ## Files of limited size -/

/-- The room that is left for the file at a path where no file has more than `most` characters. -/
def roomAt (most : Nat) (node : Node) (path : Text) : Nat :=
  most - (node.readText path).toOption.elim 0 List.length

/-- The tree where no file has more than `most` characters. Of a text that is too long a file takes
what fits. -/
def cramped (most : Nat) : Disk (StateM Node) :=
  { disk with
    appendText := fun path more node =>
      let room := node.roomAt most path
      if more.length ≤ room then (disk.appendText path more).run node
      else (.error "No space left on device (os error 28)",
        ((disk.appendText path (more.take room)).run node).2) }

theorem lawful_cramped (most : Nat) : (cramped most).Lawful treeView where
  created := lawful_disk.created
  appended path more node text taken := by
    have run : ((cramped most).appendText path more).run node
        = if more.length ≤ node.roomAt most path
        then (disk.appendText path more).run node
        else (.error "No space left on device (os error 28)",
          ((disk.appendText path (more.take (node.roomAt most path))).run node).2) := rfl
    rw [run]
    split
    · exact lawful_disk.appended path more taken
    · exact ⟨(lawful_disk.appended path _ taken).confined, nofun⟩
  finished := lawful_disk.finished
  renamed := lawful_disk.renamed
  removed := lawful_disk.removed

end TrajectoryFormat.Load.Node
