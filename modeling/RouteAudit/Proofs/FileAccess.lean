import RouteAudit.Files.Tree
import RouteAudit.Proofs.JoinedText

/-! # Files by path

A path is written as text and read again before a file is opened. Where names are what a system
allows as names (`Path.isName`), nothing is lost on the way: `ofText_text` reads back the path that
was written, and `find_text` says that following the text leads to what the tree has at the parts of
the path.

`listed?` follows parts without asking whether something stands at the end, so that a link that
leads nowhere is found too; `at?_eq_filter` compares it with `at?`. `put` changes the tree at the
given parts (`listed?_put_self`, `listed?_put_append`) and nowhere else
(`listed?_put_of_not_isPrefix`). A tree is `isProper` when its names are names and no directory
lists one twice; putting something at a listed place keeps a tree proper (`isProper_put`). -/

namespace RouteAudit

/-! ### Names and the text of paths -/

namespace Path

/-- What a system allows as the name of an entry. -/
def isName (s : String) : Bool := s != "" && s != "." && s != ".." && !s.toList.contains '/'

theorem isName_iff {s : String} :
    isName s = true ↔ s ≠ "" ∧ s ≠ "." ∧ s ≠ ".." ∧ '/' ∉ s.toList := by
  simp only [isName, Bool.and_eq_true, bne_iff_ne, ne_eq, Bool.not_eq_true', and_assoc]
  rw [List.contains_eq_mem, decide_eq_false_iff_not]

section text
variable {parts : List String} (h : ∀ p ∈ parts, isName p = true)

theorem toList_text (parts : List String) :
    (text ⟨"/", parts⟩).toList = '/' :: List.intercalate ['/'] (parts.map String.toList) := by
  simp [text, Text.join]

include h

theorem split_text (hne : parts ≠ []) : Text.split '/' (text ⟨"/", parts⟩) = "" :: parts := by
  have hcut : Text.splitAt '/' (List.intercalate ['/'] (parts.map String.toList)) =
      parts.map String.toList := by
    refine Text.splitAt_intercalate (by simpa using hne) ?_
    intro cs hcs
    obtain ⟨p, hp, rfl⟩ := List.mem_map.mp hcs
    exact (isName_iff.mp (h p hp)).2.2.2
  rw [Text.split, toList_text, Text.splitAt, if_pos rfl, hcut]
  simp

theorem partsOf_text : partsOf (text ⟨"/", parts⟩) = parts := by
  by_cases hne : parts = []
  · subst hne
    decide
  · rw [partsOf, split_text h hne, List.filter_cons_of_neg (by simp), List.filter_eq_self]
    intro p hp
    obtain ⟨hempty, hdot, -⟩ := isName_iff.mp (h p hp)
    simp [hempty, hdot]

theorem rootOf_text : rootOf (text ⟨"/", parts⟩).toList = "/" := by
  rw [toList_text]
  cases parts with
  | nil => rfl
  | cons p rest =>
      -- the first name is not empty and does not start with a slash
      obtain ⟨hempty, -, -, hslash⟩ := isName_iff.mp (h p List.mem_cons_self)
      cases hp : p.toList with
      | nil => exact absurd (String.toList_eq_nil_iff.mp hp) hempty
      | cons c cs =>
          have hc : c ≠ '/' := fun hc => hslash (by rw [hp, hc]; exact List.mem_cons_self)
          cases rest with
          | nil => simp [rootOf, hp, hc]
          | cons q rest => simp [rootOf, hp, hc, List.intercalate_cons_cons]

theorem ofText_text : ofText (text ⟨"/", parts⟩) = ⟨"/", parts⟩ := by
  rw [ofText, rootOf_text h, partsOf_text h]

end text

end Path

/-! ### Entries of a tree -/

namespace FileTree

/-- What is listed at the end of some parts. -/
def listed? (t : FileTree) : List String → Option FileTree
  | [] => some t
  | p :: rest => (t.entries.lookup p).bind (·.listed? rest)

@[simp] theorem listed?_nil (t : FileTree) : t.listed? [] = some t := rfl

theorem listed?_cons (t : FileTree) (p : String) (rest : List String) :
    t.listed? (p :: rest) = (t.entries.lookup p).bind (·.listed? rest) := rfl

theorem listed?_append (parts rest : List String) : ∀ t : FileTree,
    t.listed? (parts ++ rest) = (t.listed? parts).bind (·.listed? rest) := by
  induction parts with
  | nil => intro t; rfl
  | cons p parts ih =>
      intro t
      rw [List.cons_append, listed?_cons, listed?_cons, Option.bind_assoc]
      congr 1
      funext c
      exact ih c

theorem listed?_of_not_isDirectory {t : FileTree} (h : t.isDirectory = false) {parts : List String}
    (hne : parts ≠ []) : t.listed? parts = none := by
  obtain ⟨p, rest, rfl⟩ := List.exists_cons_of_ne_nil hne
  cases t with
  | directory es => cases h
  | file content => rfl
  | dangling => rfl

theorem isDirectory_of_listed? {t u : FileTree} {p : String} {rest : List String}
    (h : t.listed? (p :: rest) = some u) : t.isDirectory = true := by
  by_contra hne
  rw [listed?_of_not_isDirectory (by simpa using hne) (List.cons_ne_nil p rest)] at h
  cases h

theorem isFile_of_isDirectory {t : FileTree} (h : t.isDirectory = true) : t.isFile = false := by
  cases t with
  | directory es => rfl
  | file content => cases h
  | dangling => cases h

/-- Below a tree, something stands exactly where an entry is listed that is not dangling. -/
theorem at?_eq_filter : ∀ {parts : List String}, parts ≠ [] → ∀ t : FileTree,
    t.at? parts = (t.listed? parts).filter stands
  | [], hne, _ => absurd rfl hne
  | [p], _, t => by
      rw [at?, child?, listed?_cons]
      cases t.entries.lookup p with
      | none => rfl
      | some c => cases c <;> rfl
  | p :: q :: rest, _, t => by
      rw [at?, child?, listed?_cons]
      cases t.entries.lookup p with
      | none => rfl
      | some c =>
          rw [Option.bind_some, ← at?_eq_filter (List.cons_ne_nil q rest) c]
          cases c <;> rfl

theorem listed?_of_at? {t u : FileTree} {parts : List String} (h : t.at? parts = some u) :
    t.listed? parts = some u := by
  by_cases hne : parts = []
  · subst hne
    exact h
  · rw [at?_eq_filter hne, Option.filter_eq_some_iff] at h
    exact h.1

theorem at?_of_listed? {t u : FileTree} {parts : List String} (h : t.listed? parts = some u)
    (hu : u.stands = true) : t.at? parts = some u := by
  by_cases hne : parts = []
  · subst hne
    exact h
  · rw [at?_eq_filter hne, Option.filter_eq_some_iff]
    exact ⟨h, hu⟩

/-! ### Putting something at an entry -/

theorem listed?_put_self (node : FileTree) : ∀ (parts : List String) (t : FileTree),
    (t.put parts node).listed? parts = some node
  | [], _ => rfl
  | p :: parts, t => by
      rw [put, listed?_cons, entries, Assoc.lookup_update_same, Option.bind_some]
      exact listed?_put_self node parts _

theorem listed?_put_append (node : FileTree) (rest : List String) : ∀ {parts : List String}
    {t u : FileTree}, t.listed? parts = some u →
      (t.put (parts ++ rest) node).listed? parts = some (u.put rest node)
  | [], t, u, h => by
      cases h
      rfl
  | p :: parts, t, u, h => by
      rw [listed?_cons, Option.bind_eq_some_iff] at h
      obtain ⟨c, hc, hu⟩ := h
      rw [List.cons_append, put, listed?_cons, entries, Assoc.lookup_update_same, Option.bind_some,
        hc]
      exact listed?_put_append node rest hu

/-- Aside from the place where something is put, a tree stays as it is. -/
theorem listed?_put_of_not_isPrefix (node : FileTree) : ∀ {parts other : List String}
    (t : FileTree), ¬ parts <+: other → ¬ other <+: parts →
      (t.put parts node).listed? other = t.listed? other
  | [], other, _, h, _ => absurd List.nil_prefix h
  | _ :: _, [], _, _, h => absurd List.nil_prefix h
  | p :: parts, q :: other, t, h, h' => by
      rw [put, listed?_cons, listed?_cons, entries]
      by_cases hpq : q = p
      · subst hpq
        rw [List.cons_prefix_cons] at h h'
        have hrest : ¬ parts <+: other := fun hpre => h ⟨rfl, hpre⟩
        have hrest' : ¬ other <+: parts := fun hpre => h' ⟨rfl, hpre⟩
        rw [Assoc.lookup_update_same, Option.bind_some,
          listed?_put_of_not_isPrefix node _ hrest hrest']
        cases t.entries.lookup q with
        | some c => rfl
        | none =>
            -- nothing is listed below a directory that is only there for the new entry
            obtain ⟨r, rest, rfl⟩ := List.exists_cons_of_ne_nil (l := other)
              fun hnil => hrest' (hnil ▸ List.nil_prefix)
            rfl
      · rw [Assoc.lookup_update_ne _ _ hpq]

theorem not_isPrefix_of_leaf {t u w : FileTree} {parts other : List String}
    (hu : t.listed? parts = some u) (hleaf : u.isDirectory = false) (hw : t.listed? other = some w)
    (hne : other ≠ parts) : ¬ parts <+: other := by
  rintro ⟨rest, rfl⟩
  have hrest : rest ≠ [] := fun hnil => hne (by rw [hnil, List.append_nil])
  rw [listed?_append, hu, Option.bind_some, listed?_of_not_isDirectory hleaf hrest] at hw
  cases hw

/-! ### Proper trees -/

mutual

/-- The names in a tree are names, and no directory lists one twice. -/
def isProper : FileTree → Bool
  | .directory es => areProper es
  | _ => true

def areProper : List (String × FileTree) → Bool
  | [] => true
  | (name, t) :: rest =>
    Path.isName name && !(rest.map Prod.fst).contains name && t.isProper && areProper rest

end

theorem areProper_iff {es : List (String × FileTree)} :
    areProper es = true ↔
      (es.map Prod.fst).Nodup ∧ ∀ e ∈ es, Path.isName e.1 = true ∧ e.2.isProper = true := by
  induction es with
  | nil => simp [areProper]
  | cons e rest ih =>
      simp only [areProper, Bool.and_eq_true, Bool.not_eq_true', ih, List.map_cons,
        List.nodup_cons, List.forall_mem_cons, List.contains_eq_mem, decide_eq_false_iff_not]
      tauto

theorem mem_of_lookup {es : List (String × FileTree)} {p : String} {c : FileTree}
    (h : es.lookup p = some c) : (p, c) ∈ es := by
  obtain ⟨before, after, hsplit, -⟩ := List.lookup_eq_some_iff.mp h
  rw [hsplit]
  exact List.mem_append_right _ List.mem_cons_self

theorem lookup_of_mem {es : List (String × FileTree)} (h : (es.map Prod.fst).Nodup) {p : String}
    {c : FileTree} (hmem : (p, c) ∈ es) : es.lookup p = some c := by
  induction es with
  | nil => cases hmem
  | cons e rest ih =>
      obtain ⟨k, v⟩ := e
      rw [List.map_cons, List.nodup_cons] at h
      rw [List.lookup_cons]
      rcases List.mem_cons.mp hmem with heq | hrest
      · cases heq
        simp
      · have hne : p ≠ k := by
          rintro rfl
          exact h.1 (List.mem_map.mpr ⟨(p, c), hrest, rfl⟩)
        rw [beq_eq_false_iff_ne.mpr hne]
        exact ih h.2 hrest

theorem entries_of_isProper {t : FileTree} (h : t.isProper = true) :
    (t.entries.map Prod.fst).Nodup ∧
      ∀ e ∈ t.entries, Path.isName e.1 = true ∧ e.2.isProper = true := by
  cases t with
  | directory es => exact areProper_iff.mp h
  | file content => exact ⟨List.nodup_nil, by simp [entries]⟩
  | dangling => exact ⟨List.nodup_nil, by simp [entries]⟩

theorem isProper_child {t c : FileTree} {p : String} (h : t.isProper = true)
    (hc : t.entries.lookup p = some c) : Path.isName p = true ∧ c.isProper = true :=
  (entries_of_isProper h).2 (p, c) (mem_of_lookup hc)

theorem isName_of_listed? : ∀ {parts : List String} {t u : FileTree}, t.isProper = true →
    t.listed? parts = some u → ∀ p ∈ parts, Path.isName p = true
  | [], _, _, _, _ => by simp
  | p :: parts, t, u, ht, h => by
      rw [listed?_cons, Option.bind_eq_some_iff] at h
      obtain ⟨c, hc, hu⟩ := h
      obtain ⟨hname, hproper⟩ := isProper_child ht hc
      exact List.forall_mem_cons.mpr ⟨hname, isName_of_listed? hproper hu⟩

theorem isProper_of_listed? : ∀ {parts : List String} {t u : FileTree}, t.isProper = true →
    t.listed? parts = some u → u.isProper = true
  | [], _, _, ht, h => by
      cases h
      exact ht
  | p :: parts, t, u, ht, h => by
      rw [listed?_cons, Option.bind_eq_some_iff] at h
      obtain ⟨c, hc, hu⟩ := h
      exact isProper_of_listed? (isProper_child ht hc).2 hu

end FileTree

/-! ### Updates in place -/

namespace Assoc

variable {α : Type}

theorem update_of_lookup {key : String} {f : Option α → α} : ∀ {xs : List (String × α)} {v : α},
    xs.lookup key = some v → ∃ before after,
      xs = before ++ (key, v) :: after ∧ update key f xs = before ++ (key, f (some v)) :: after
  | [], _, h => by cases h
  | (k, w) :: xs, v, h => by
      by_cases hk : key = k
      · subst hk
        simp only [List.lookup_cons, beq_self_eq_true, Option.some.injEq] at h
        subst h
        exact ⟨[], xs, rfl, by rw [update, if_pos rfl, List.nil_append]⟩
      · rw [List.lookup_cons, beq_eq_false_iff_ne.mpr hk] at h
        obtain ⟨before, after, hsplit, hupdate⟩ := update_of_lookup (f := f) h
        refine ⟨(k, w) :: before, after, by rw [hsplit, List.cons_append], ?_⟩
        rw [update, if_neg (Ne.symm hk), hupdate, List.cons_append]

end Assoc

namespace FileTree

theorem isProper_put {node : FileTree} (hnode : node.isProper = true) : ∀ {parts : List String}
    {t u : FileTree}, t.isProper = true → t.listed? parts = some u →
      (t.put parts node).isProper = true
  | [], _, _, _, _ => hnode
  | p :: parts, t, u, ht, h => by
      cases t with
      | file content => cases h
      | dangling => cases h
      | directory es =>
          rw [listed?_cons, Option.bind_eq_some_iff] at h
          obtain ⟨c, hc, hu⟩ := h
          obtain ⟨hnodup, hall⟩ := areProper_iff.mp ht
          have hchild := isProper_put hnode (isProper_child ht hc).2 hu
          obtain ⟨before, after, hsplit, hupdate⟩ := Assoc.update_of_lookup
            (f := fun old => (old.getD empty).put parts node) hc
          change es = _ at hsplit
          change areProper (Assoc.update p _ es) = true
          rw [show (FileTree.directory es).entries = es from rfl] at hupdate
          rw [hupdate, areProper_iff]
          constructor
          · rw [hsplit] at hnodup
            simpa using hnodup
          · intro e he
            rw [List.mem_append, List.mem_cons] at he
            rcases he with he | rfl | he
            · exact hall e (hsplit ▸ List.mem_append_left _ he)
            · exact ⟨(isProper_child ht hc).1, hchild⟩
            · exact hall e (hsplit ▸ List.mem_append_right _ (List.mem_cons_of_mem _ he))

end FileTree

/-! ### Following the text of a path -/

namespace FileSystem

theorem foldlM_step_of_listed? : ∀ {parts : List String} {t leaf : FileTree}
    (above : List FileTree), parts ≠ [] → (∀ p ∈ parts, Path.isName p = true) →
      t.listed? parts = some leaf → ∃ places, parts.foldlM step (t :: above) =
        if leaf.stands then .ok (leaf :: places) else .error .missing
  | [], _, _, _, hne, _, _ => absurd rfl hne
  | p :: parts, t, leaf, above, _, hnames, h => by
      have hdir := FileTree.isDirectory_of_listed? h
      have hfile := FileTree.isFile_of_isDirectory hdir
      obtain ⟨hempty, hdot, hdots, -⟩ := Path.isName_iff.mp (hnames p List.mem_cons_self)
      rw [FileTree.listed?_cons, Option.bind_eq_some_iff] at h
      obtain ⟨c, hc, hleaf⟩ := h
      have hstep : step (t :: above) p =
          if c.stands then .ok (c :: t :: above) else .error .missing := by
        simp only [step, hfile, Bool.false_eq_true, if_false, Bool.or_eq_true, beq_iff_eq, hempty,
          hdot, hdots, or_self, FileTree.child?, hc]
        cases c <;> rfl
      rw [List.foldlM_cons, hstep]
      cases hstands : c.stands with
      | false =>
          -- a dangling link has no entries, so it is the leaf
          cases c with
          | file content => cases hstands
          | directory es => cases hstands
          | dangling =>
              cases parts with
              | nil =>
                  cases hleaf
                  exact ⟨[], rfl⟩
              | cons q rest => cases hleaf
      | true =>
          cases parts with
          | nil =>
              cases hleaf
              exact ⟨t :: above, by rw [hstands]; rfl⟩
          | cons q rest =>
              exact foldlM_step_of_listed? (t :: above) (List.cons_ne_nil q rest)
                (fun r hr => hnames r (List.mem_cons_of_mem p hr)) hleaf

/-- The text of a path leads to the entry at its parts, if something stands there. -/
theorem find_text {fs : FileSystem} (hproper : fs.root.isProper = true) {parts : List String}
    (hne : parts ≠ []) {leaf : FileTree} (h : fs.root.listed? parts = some leaf) :
    fs.find (Path.text ⟨"/", parts⟩) = if leaf.stands then .ok leaf else .error .missing := by
  have hnames := FileTree.isName_of_listed? hproper h
  have hroot : fs.root.isFile = false := by
    obtain ⟨p, rest, rfl⟩ := List.exists_cons_of_ne_nil hne
    exact FileTree.isFile_of_isDirectory (FileTree.isDirectory_of_listed? h)
  obtain ⟨places, hplaces⟩ := foldlM_step_of_listed? [] hne hnames h
  have htext : (Path.text ⟨"/", parts⟩).isEmpty = false := by
    by_contra hempty
    have hnil : (Path.text ⟨"/", parts⟩).toList = [] := by
      rw [String.toList_eq_nil_iff]
      simpa using hempty
    rw [Path.toList_text] at hnil
    cases hnil
  have hslash : Text.startsWith (Path.text ⟨"/", parts⟩) "/" = true := by
    rw [Text.startsWith, Path.toList_text]
    simp
  have hfirst : step [fs.root] "" = .ok [fs.root] := by simp [step, hroot]
  unfold find
  simp only [htext, hslash, Path.split_text hnames hne, Bool.false_eq_true, if_false, if_true,
    List.foldlM_cons, hfirst]
  change (parts.foldlM step [fs.root] >>= _) = _
  rw [hplaces]
  cases leaf.stands <;> rfl

end FileSystem

end RouteAudit
