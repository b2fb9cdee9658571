import Gadget.Proofs.Paths
import Mathlib.Data.List.Basic
/-!
# Walks through a file tree

A walk that arrives somewhere took one of a few kinds of steps at each name (`FileTree.Leads`). From this
follow the two laws of walks that creations need: one more name takes a walk one step further
(`walk_append_singleton`), and a tree that only grew has the same walks (`Extends.walk_eq`). So the new entry
is where its path leads to (`Place.lookUp_withEntry`), and making it again finds it there
(`makeDirectory_again`).
-/
namespace Gadget.Device.FileTree

variable {t t' : FileTree} {followLast : Bool} {follow follow' : Nat → List RawText → Except Errno Nat}
  {node result : Nat} {name : RawText} {rest names : List RawText} {path : RawText}

/-! ## Steps of a walk -/

/-- The step by which a walk goes on from a directory and arrives: it stays, goes up, enters an entry or
follows a link. -/
inductive Leads (t : FileTree) (followLast : Bool) (follow : Nat → List RawText → Except Errno Nat)
    (node : Nat) (name : RawText) (rest : List RawText) (result : Nat) : Prop
  | current {parent mode : Nat} {entries : List (RawText × Nat)}
    (hd : t.nodes[node]? = some (.directory parent mode entries)) (hn : name = Path.currentName)
    (hw : t.walkNames followLast follow node rest = .ok result)
  | parent {parent mode : Nat} {entries : List (RawText × Nat)}
    (hd : t.nodes[node]? = some (.directory parent mode entries)) (hn : name = Path.parentName)
    (hw : t.walkNames followLast follow parent rest = .ok result)
  | entry {parent mode child : Nat} {entries : List (RawText × Nat)}
    (hd : t.nodes[node]? = some (.directory parent mode entries))
    (hn : name ≠ Path.currentName ∧ name ≠ Path.parentName)
    (hlen : name.length ≤ nameLimit) (hc : entries.lookup name = some child)
    (hl : ∀ target, t.nodes[child]? ≠ some (.link target))
    (hw : t.walkNames followLast follow child rest = .ok result)
  | link {parent mode child : Nat} {entries : List (RawText × Nat)} {target : RawText}
    (hd : t.nodes[node]? = some (.directory parent mode entries))
    (hn : name ≠ Path.currentName ∧ name ≠ Path.parentName)
    (hlen : name.length ≤ nameLimit) (hc : entries.lookup name = some child)
    (hl : t.nodes[child]? = some (.link target)) (hlast : rest ≠ [] ∨ followLast)
    (hw : follow (start target node) (steps target ++ rest) = .ok result)

/-- A walk that follows every link arrives by such steps only. -/
theorem leads_of_walkNames (h : t.walkNames true follow node (name :: rest) = .ok result) :
    Leads t true follow node name rest result := by
  rw [walkNames] at h
  split at h
  · rename_i parent mode entries hd
    by_cases hdot : name = Path.currentName
    · rw [if_pos hdot] at h
      exact .current hd hdot h
    by_cases hdots : name = Path.parentName
    · rw [if_neg hdot, if_pos hdots] at h
      exact .parent hd hdots h
    by_cases hlen : nameLimit < name.length
    · rw [if_neg hdot, if_neg hdots, if_pos hlen] at h
      cases h
    rw [if_neg hdot, if_neg hdots, if_neg hlen] at h
    cases hc : entries.lookup name with
    | none =>
      rw [hc] at h
      cases h
    | some child =>
      simp only [hc] at h
      split at h
      · rename_i target hl
        rw [if_neg (by simp)] at h
        exact .link hd ⟨hdot, hdots⟩ (Nat.not_lt.1 hlen) hc hl (.inr rfl) h
      · rename_i hl
        exact .entry hd ⟨hdot, hdots⟩ (Nat.not_lt.1 hlen) hc hl h
  · cases h

/-- Such steps arrive. -/
theorem Leads.walkNames_eq (h : Leads t followLast follow node name rest result) :
    t.walkNames followLast follow node (name :: rest) = .ok result := by
  cases h with
  | current hd hn hw => simp only [walkNames, hd, hn, if_true, hw]
  | parent hd hn hw =>
    have hne : Path.parentName ≠ Path.currentName := by decide
    simp only [walkNames, hd, hn, hne, if_true, if_false, hw]
  | entry hd hn hlen hc hl hw =>
    simp only [walkNames, hd, hn.1, hn.2, Nat.not_lt.2 hlen, hc, if_false, hw]
  | link hd hn hlen hc hl hlast hw =>
    simp only [walkNames, hd, hn.1, hn.2, Nat.not_lt.2 hlen, hc, hl, if_false]
    rw [if_neg (by rcases hlast with hr | hf <;> simp [*]), hw]

/-- An entry that is no link is one step away. -/
theorem walkNames_entry {parent mode child : Nat} {entries : List (RawText × Nat)}
    (hd : t.nodes[node]? = some (.directory parent mode entries))
    (hn : name ≠ Path.currentName ∧ name ≠ Path.parentName)
    (hlen : name.length ≤ nameLimit) (hc : entries.lookup name = some child)
    (hl : ∀ target, t.nodes[child]? ≠ some (.link target)) :
    t.walkNames followLast follow node [name] = .ok child :=
  (Leads.entry hd hn hlen hc hl (by rw [walkNames])).walkNames_eq

/-! ## One more name -/

theorem walkNames_append_singleton {place child : Nat}
    (hfollow : ∀ start names, follow start names = .ok place → follow' start (names ++ [name]) = .ok child)
    (hlast : t.walkNames followLast follow' place [name] = .ok child)
    (h : t.walkNames true follow node names = .ok place) :
    t.walkNames followLast follow' node (names ++ [name]) = .ok child := by
  induction names generalizing node with
  | nil =>
    rw [walkNames] at h
    cases h
    exact hlast
  | cons first names ih =>
    refine Leads.walkNames_eq ?_
    cases leads_of_walkNames h with
    | current hd hn hw => exact .current hd hn (ih hw)
    | parent hd hn hw => exact .parent hd hn (ih hw)
    | entry hd hn hlen hc hl hw => exact .entry hd hn hlen hc hl (ih hw)
    | link hd hn hlen hc hl _ hw =>
      have hon := hfollow _ _ hw
      rw [List.append_assoc] at hon
      exact .link hd hn hlen hc hl (.inl (List.append_ne_nil_of_right_ne_nil names (by simp))) hon

/-- A name behind a walk that arrived takes it one step further. -/
theorem walk_append_singleton {links place child : Nat}
    (hlast : ∀ follow, t.walkNames followLast follow place [name] = .ok child)
    (h : t.walk true links node names = .ok place) :
    t.walk followLast links node (names ++ [name]) = .ok child := by
  induction links generalizing node names with
  | zero => exact walkNames_append_singleton (fun _ _ hf => by cases hf) (hlast _) h
  | succ links ih => exact walkNames_append_singleton (fun _ _ hf => ih hf) (hlast _) h

/-! ## Trees that grew -/

/-- Every directory of `t` is in `t'`, with its entries in front, and no link is new. -/
structure Extends (t t' : FileTree) : Prop where
  working : t'.working = t.working
  directory : ∀ (node parent mode : Nat) (entries : List (RawText × Nat)),
    t.nodes[node]? = some (.directory parent mode entries) →
      ∃ added, t'.nodes[node]? = some (.directory parent mode (entries ++ added))
  link : ∀ (node : Nat) (target : RawText),
    t'.nodes[node]? = some (.link target) ↔ t.nodes[node]? = some (.link target)

theorem lookup_append_of_some {entries : List (RawText × Nat)} {child : Nat}
    (h : entries.lookup name = some child) (added : List (RawText × Nat)) :
    (entries ++ added).lookup name = some child := by
  rw [List.lookup_append, h]
  rfl

namespace Extends

theorem walkNames_eq (h : Extends t t')
    (hfollow : ∀ start names, follow start names = .ok result → follow' start names = .ok result)
    (hw : t.walkNames true follow node names = .ok result) :
    t'.walkNames true follow' node names = .ok result := by
  induction names generalizing node with
  | nil =>
    rw [walkNames] at hw ⊢
    exact hw
  | cons name rest ih =>
    refine Leads.walkNames_eq ?_
    cases leads_of_walkNames hw with
    | current hd hn hw =>
      obtain ⟨added, hd'⟩ := h.directory _ _ _ _ hd
      exact .current hd' hn (ih hw)
    | parent hd hn hw =>
      obtain ⟨added, hd'⟩ := h.directory _ _ _ _ hd
      exact .parent hd' hn (ih hw)
    | entry hd hn hlen hc hl hw =>
      obtain ⟨added, hd'⟩ := h.directory _ _ _ _ hd
      exact .entry hd' hn hlen (lookup_append_of_some hc added)
        (fun target hlink => hl target ((h.link _ target).1 hlink)) (ih hw)
    | link hd hn hlen hc hl hlast hw =>
      obtain ⟨added, hd'⟩ := h.directory _ _ _ _ hd
      exact .link hd' hn hlen (lookup_append_of_some hc added) ((h.link _ _).2 hl) hlast (hfollow _ _ hw)

/-- A walk that arrived still does when the tree has grown. -/
theorem walk_eq {links : Nat} (h : Extends t t') (hw : t.walk true links node names = .ok result) :
    t'.walk true links node names = .ok result := by
  induction links generalizing node names with
  | zero => exact h.walkNames_eq (fun _ _ hf => by cases hf) hw
  | succ links ih => exact h.walkNames_eq (fun _ _ hf => ih hf) hw

end Extends

/-! ## Making an entry -/

/-- What a longer path passes, its beginning does, unless it is empty. -/
theorem checkPath_of_append {base more : RawText} (h : checkPath (base ++ more) = .ok ()) (hne : base ≠ []) :
    checkPath base = .ok () := by
  simp only [checkPath, List.length_append] at h ⊢
  split at h
  · cases h
  rename_i hnul
  split at h
  · cases h
  split at h
  · cases h
  rename_i hlen
  rw [if_neg (by simp at hnul ⊢; exact hnul.1), if_neg hne, if_neg (by omega)]

/-- A path at which nothing is yet, in a directory that is there: where its last name is to stand. -/
structure Place (path : RawText) (t : FileTree) (directory : Nat) (name : RawText) (parent mode : Nat)
    (entries : List (RawText × Nat)) : Prop where
  check : checkPath path = .ok ()
  walk : t.walk true linkLimit (start path t.working) (way path).dropLast = .ok directory
  directory : t.nodes[directory]? = some (.directory parent mode entries)
  last : (way path).getLast? = some name
  plain : name ≠ Path.currentName ∧ name ≠ Path.parentName
  short : name.length ≤ nameLimit
  vacant : entries.lookup name = none

theorem placeOf_eq_ok {directory : Nat} (h : t.placeOf path = .ok (directory, name)) :
    ∃ parent mode entries, Place path t directory name parent mode entries := by
  rw [placeOf] at h
  split at h
  · cases h
  rename_i hcheck
  dsimp only at h
  split at h
  · cases h
  rename_i found hwalk
  split at h
  · rename_i parent mode entries last hd hlast
    by_cases hdots : last = Path.currentName ∨ last = Path.parentName
    · rw [if_pos hdots] at h
      cases h
    by_cases hlen : nameLimit < last.length
    · rw [if_neg hdots, if_pos hlen] at h
      cases h
    by_cases hc : (entries.lookup last).isSome
    · rw [if_neg hdots, if_neg hlen, if_pos hc] at h
      cases h
    rw [if_neg hdots, if_neg hlen, if_neg hc] at h
    cases h
    exact ⟨parent, mode, entries, hcheck, hwalk, hd, hlast, not_or.1 hdots, Nat.not_lt.1 hlen,
      Option.not_isSome_iff_eq_none.1 hc⟩
  · cases h
  · cases h

/-- Where the last name of a path stands already, nothing can be made. -/
theorem placeOf_of_lookup {directory parent mode child : Nat} {entries : List (RawText × Nat)}
    (hcheck : checkPath path = .ok ())
    (hwalk : t.walk true linkLimit (start path t.working) (way path).dropLast = .ok directory)
    (hd : t.nodes[directory]? = some (.directory parent mode entries))
    (hlast : (way path).getLast? = some name) (hlen : name.length ≤ nameLimit)
    (hc : entries.lookup name = some child) : t.placeOf path = .error (.os .alreadyExists) := by
  rw [way] at hwalk hlast
  simp only [placeOf, hcheck, hwalk, hd, hlast, Nat.not_lt.2 hlen, hc, Option.isSome_some, if_false,
    if_true, ite_self]

/-- A tree with one more node, which is an entry of a directory. -/
def withEntry (t : FileTree) (directory : Nat) (name : RawText) (node : Node) : FileTree :=
  { t with nodes := t.nodes.modify directory (Node.addEntry name t.nodes.length) ++ [node] }

/-- Making an entry changes nothing, or adds it at its place. -/
theorem create_cases (path : RawText) (make : Nat → Node) (t : FileTree) :
    (∃ e, t.placeOf path = .error e ∧ t.create path make = (.error e, t)) ∨
    (∃ directory name parent mode entries, Place path t directory name parent mode entries ∧
      t.create path make = (.ok (), t.withEntry directory name (make directory))) := by
  cases hp : t.placeOf path with
  | error e => exact .inl ⟨e, rfl, by rw [create, hp]⟩
  | ok place =>
    obtain ⟨directory, name⟩ := place
    obtain ⟨parent, mode, entries, hplace⟩ := placeOf_eq_ok hp
    exact .inr ⟨directory, name, parent, mode, entries, hplace, by rw [create, hp]; rfl⟩

namespace Place

variable {directory parent mode : Nat} {entries : List (RawText × Nat)} {node : Node}

/-- What is where in the tree with the new entry. -/
theorem getElem?_withEntry (h : Place path t directory name parent mode entries) (node : Node) (n : Nat) :
    (t.withEntry directory name node).nodes[n]? =
      if n = t.nodes.length then some node
      else if n = directory then some (.directory parent mode (entries ++ [(name, t.nodes.length)]))
      else t.nodes[n]? := by
  have hlt : directory < t.nodes.length := (List.getElem?_eq_some_iff.1 h.directory).1
  rw [withEntry, List.getElem?_append, List.length_modify]
  split
  · rename_i hn
    rw [if_neg (Nat.ne_of_lt hn), List.getElem?_modify]
    by_cases hd : directory = n
    · subst hd
      simp [h.directory, Node.addEntry]
    · simp [hd, Ne.symm hd]
  · rename_i hn
    by_cases he : n = t.nodes.length
    · simp [he]
    · rw [if_neg he, if_neg (by omega), List.getElem?_eq_none (by simp; omega),
        List.getElem?_eq_none (by omega)]

theorem extends_withEntry (h : Place path t directory name parent mode entries)
    (hnode : ∀ target, node ≠ .link target) : Extends t (t.withEntry directory name node) where
  working := rfl
  directory n p m es hn := by
    rw [h.getElem?_withEntry]
    have hlt := (List.getElem?_eq_some_iff.1 hn).1
    rw [if_neg (Nat.ne_of_lt hlt)]
    split
    · rename_i hd
      rw [hd, h.directory] at hn
      cases hn
      exact ⟨_, rfl⟩
    · exact ⟨[], by rw [hn, List.append_nil]⟩
  link n target := by
    rw [h.getElem?_withEntry]
    split
    · rename_i hn
      rw [hn, List.getElem?_eq_none (Nat.le_refl _)]
      simp [hnode target]
    · split
      · rename_i hd
        rw [hd, h.directory]
        simp
      · rfl

/-- The entry is found. -/
theorem lookup_new (h : Place path t directory name parent mode entries) (child : Nat) :
    (entries ++ [(name, child)]).lookup name = some child := by
  rw [List.lookup_append, h.vacant, Option.none_or, List.lookup_cons_self]

theorem walk_withEntry (h : Place path t directory name parent mode entries)
    (hnode : ∀ target, node ≠ .link target) :
    (t.withEntry directory name node).walk true linkLimit (start path t.working) (way path).dropLast =
      .ok directory :=
  (h.extends_withEntry hnode).walk_eq h.walk

theorem directory_withEntry (h : Place path t directory name parent mode entries) (node : Node) :
    (t.withEntry directory name node).nodes[directory]? =
      some (.directory parent mode (entries ++ [(name, t.nodes.length)])) := by
  have hlt := (List.getElem?_eq_some_iff.1 h.directory).1
  rw [h.getElem?_withEntry, if_neg (Nat.ne_of_lt hlt), if_pos rfl]

/-- Nothing can be made twice. -/
theorem placeOf_withEntry (h : Place path t directory name parent mode entries)
    (hnode : ∀ target, node ≠ .link target) :
    (t.withEntry directory name node).placeOf path = .error (.os .alreadyExists) :=
  placeOf_of_lookup h.check (h.walk_withEntry hnode) (h.directory_withEntry node) h.last h.short
    (h.lookup_new _)

/-- The path leads to the new entry. -/
theorem lookUp_withEntry (h : Place path t directory name parent mode entries)
    (hnode : ∀ target, node ≠ .link target) (hslash : path.getLast? ≠ some RawText.slash)
    (followLast : Bool) :
    (t.withEntry directory name node).lookUp path followLast = .ok t.nodes.length := by
  have hway : (way path).dropLast ++ [name] = way path := List.dropLast_append_getLast? name h.last
  have hlast : ∀ follow, (t.withEntry directory name node).walkNames followLast follow directory [name] =
      .ok t.nodes.length := fun follow =>
    walkNames_entry (h.directory_withEntry node) h.plain h.short (h.lookup_new _) fun target hl => by
      rw [h.getElem?_withEntry, if_pos rfl] at hl
      exact hnode target (Option.some.inj hl)
  have hwalk := walk_append_singleton hlast (h.walk_withEntry hnode)
  rw [hway] at hwalk
  have hsteps : steps path = way path := by rw [steps_eq, if_neg hslash]
  have hstart : (t.withEntry directory name node).working = t.working := rfl
  simp only [lookUp, h.check, hsteps, hstart, hwalk]

/-- The last name of a joined path is what was put behind the root. -/
theorem name_eq {root last : RawText} (hname : IsSegment name)
    (h : Place (Path.join root name) t directory last parent mode entries) : last = name := by
  have hlast := h.last
  rw [way_join hname, List.getLast?_concat] at hlast
  exact (Option.some.inj hlast).symm

/-- The directory of a joined path is what the root leads to. -/
theorem lookUp_root {root last : RawText} (hname : IsSegment name)
    (h : Place (Path.join root name) t directory last parent mode entries) :
    if root = [] then directory = t.working else t.lookUp root true = .ok directory := by
  have hwalk := h.walk
  rw [way_join hname, List.dropLast_concat, start_join hname] at hwalk
  split
  · rename_i hr
    rw [hr] at hwalk
    exact (Except.ok.inj hwalk).symm
  · rename_i hr
    obtain ⟨rest, hj⟩ := Path.exists_join_eq_append hname root
    have hcheck := h.check
    rw [hj] at hcheck
    have hstay : ∀ follow, t.walkNames true follow directory [Path.currentName] = .ok directory := fun follow =>
      (Leads.current h.directory rfl (by rw [walkNames])).walkNames_eq
    have hsteps : t.walk true linkLimit (start root t.working) (steps root) = .ok directory := by
      rw [steps_eq]
      split
      · exact walk_append_singleton hstay hwalk
      · exact hwalk
    simp only [lookUp, checkPath_of_append hcheck hr, hsteps]

end Place

/-! ## Directories -/

/-- Making a directory changes nothing, or adds an empty one at its place. -/
theorem makeDirectory_cases (path : RawText) (mode : Nat) (t : FileTree) :
    (∃ e, t.placeOf path = .error e ∧ t.makeDirectory path mode = (.error e, t)) ∨
    (∃ directory name parent mode' entries, Place path t directory name parent mode' entries ∧
      t.makeDirectory path mode = (.ok (), t.withEntry directory name
        (.directory directory (mode ^^^ (mode &&& t.umask)) []))) :=
  create_cases path (fun parent => .directory parent (mode ^^^ (mode &&& t.umask)) []) t

/-- **A directory that was made, or was there, is made no second time.** -/
theorem makeDirectory_again {mode : Nat} (h : (t.makeDirectory path mode).1 = .ok () ∨
    (t.makeDirectory path mode).1 = .error (.os .alreadyExists)) :
    (t.makeDirectory path mode).2.makeDirectory path mode =
      (.error (.os .alreadyExists), (t.makeDirectory path mode).2) := by
  rcases makeDirectory_cases path mode t with ⟨e, -, he⟩ | ⟨directory, name, parent, mode', entries, hp, he⟩
  · rw [he] at h ⊢
    rcases h with h | h <;> cases h
    exact he
  · rw [he]
    have hnode : ∀ target, Node.directory directory (mode ^^^ (mode &&& t.umask)) [] ≠ .link target := by simp
    simp only [makeDirectory, create, hp.placeOf_withEntry hnode]

end Gadget.Device.FileTree
