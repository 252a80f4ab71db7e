import Mathlib
import RouteInventory.Extract.Index
import RouteInventory.Proofs.DocumentOrder
import RouteInventory.Proofs.PathTexts

/-!
# A disk with one more file

A file that is put where nothing stood adds one item to the listing of the directories above it, and
changes nothing else: every path that led somewhere leads there still, to the same contents.

* `Entry.filesBelow_put` — the listing of a directory gains the new file, at its place.
* `Entry.exists_names_of_mem`, `Entry.nodup_filesBelow` — what is listed lies below the directory,
  and nothing is listed twice.
* `Location.step_grow`, `Disk.find_put` — names and paths lead to the same place as before.
* `Disk.read_put`, `Disk.isFile_put` — what was a file before is the same file afterwards.
-/

namespace RouteInventory

namespace Entry

/-- As directories are: their names ascend, and can stand in a path for something below it. -/
inductive WellFormed : Entry → Prop
  | file (contents : Except FileError String) : WellFormed (.file contents)
  | directory {entries : List (String × Entry)}
      (ascending : entries.Pairwise fun a b => a.1 < b.1)
      (named : ∀ a ∈ entries, Path.IsName a.1 ∧ a.1 ≠ "..")
      (below : ∀ a ∈ entries, WellFormed a.2) : WellFormed (.directory entries)

/-- Nothing stands at the end of the names, and only directories on the way there. -/
def Free : List String → Entry → Prop
  | [], _ => False
  | name :: names, e =>
    e.isDirectory = true ∧ ∀ below, e.child? name = some below → Free names below

variable {e : Entry} {entries : List (String × Entry)} {name : String} {names : List String}
  {enter : String → Bool}

theorem wellFormed_empty : WellFormed (directory []) :=
  .directory .nil (fun _ h => absurd h List.not_mem_nil) fun _ h => absurd h List.not_mem_nil

theorem free_empty (hnames : names ≠ []) : Free names (directory []) := by
  cases names with
  | nil => exact absurd rfl hnames
  | cons name names =>
    refine ⟨rfl, fun below hbelow => ?_⟩
    cases hbelow

theorem Free.isDirectory (h : e.Free names) : e.isDirectory = true := by
  cases names with
  | nil => exact h.elim
  | cons name names => exact h.1

theorem isDirectory_of_child? {x : Entry} (h : e.child? name = some x) :
    e.isDirectory = true := by
  cases e with
  | file => cases h
  | directory => rfl

theorem child?_cons (n : String) (x : Entry) (name : String) :
    (directory ((n, x) :: entries)).child? name =
      if n = name then some x else (directory entries).child? name := by
  by_cases h : n = name <;> simp [child?, h]

/-- Of the entries of a directory only the one that is put in its place changes. -/
theorem child?_insertInto (name other : String) (entry : Entry)
    (entries : List (String × Entry)) :
    (directory (insertInto name entry entries)).child? other =
      if name = other then some entry else (directory entries).child? other := by
  induction entries with
  | nil => exact child?_cons name entry other
  | cons a rest ih =>
    obtain ⟨n, x⟩ := a
    unfold insertInto
    split
    · exact child?_cons name entry other
    · split
      · rename_i heq
        subst heq
        simp only [child?_cons]
        split <;> rfl
      · rename_i hne
        rw [child?_cons, ih, child?_cons]
        by_cases hn : n = other
        · subst hn
          simp [hne]
        · simp [hn]

theorem child?_eq_none_of_lt (h : ∀ a ∈ entries, name < a.1) :
    (directory entries).child? name = none := by
  induction entries with
  | nil => rfl
  | cons a rest ih =>
    obtain ⟨n, x⟩ := a
    have hlt : name < n := h _ List.mem_cons_self
    rw [child?_cons, if_neg (ne_of_gt hlt), ih fun a ha => h a (List.mem_cons_of_mem _ ha)]

/-- An entry is put in the place of the one with its name, or at its own place. -/
theorem exists_insertInto (ascending : entries.Pairwise fun a b => a.1 < b.1) (name : String)
    (entry : Entry) :
    ∃ as bs, entries = as ++ (((directory entries).child? name).map (name, ·)).toList ++ bs ∧
      insertInto name entry entries = as ++ (name, entry) :: bs := by
  induction entries with
  | nil => exact ⟨[], [], rfl, rfl⟩
  | cons a rest ih =>
    obtain ⟨n, x⟩ := a
    obtain ⟨hfirst, hrest⟩ := List.pairwise_cons.1 ascending
    unfold insertInto
    split
    · rename_i hlt
      have hnone : (directory ((n, x) :: rest)).child? name = none := by
        refine child?_eq_none_of_lt fun a ha => ?_
        rcases List.mem_cons.1 ha with rfl | ha
        · exact hlt
        · exact lt_trans hlt (hfirst a ha)
      exact ⟨[], (n, x) :: rest, by rw [hnone]; rfl, rfl⟩
    · split
      · rename_i heq
        subst heq
        exact ⟨[], rest, by simp [child?_cons], rfl⟩
      · rename_i hne
        obtain ⟨as, bs, hsplit, hinsert⟩ := ih hrest
        refine ⟨(n, x) :: as, bs, ?_, by rw [hinsert]; rfl⟩
        rw [child?_cons, if_neg (Ne.symm hne)]
        exact congrArg ((n, x) :: ·) hsplit

theorem mem_insertInto {entry : Entry} {a : String × Entry}
    (h : a ∈ insertInto name entry entries) : a = (name, entry) ∨ a ∈ entries := by
  induction entries with
  | nil => exact Or.inl (List.mem_singleton.1 h)
  | cons b rest ih =>
    unfold insertInto at h
    split at h
    · exact List.mem_cons.1 h
    · split at h
      · exact (List.mem_cons.1 h).imp_right (List.mem_cons_of_mem _)
      · rcases List.mem_cons.1 h with rfl | h
        · exact Or.inr List.mem_cons_self
        · exact (ih h).imp_right (List.mem_cons_of_mem _)

theorem ascending_insertInto (ascending : entries.Pairwise fun a b => a.1 < b.1) (name : String)
    (entry : Entry) : (insertInto name entry entries).Pairwise fun a b => a.1 < b.1 := by
  induction entries with
  | nil => exact List.pairwise_singleton _ _
  | cons b rest ih =>
    obtain ⟨hfirst, hrest⟩ := List.pairwise_cons.1 ascending
    unfold insertInto
    split
    · rename_i hlt
      refine List.pairwise_cons.2 ⟨fun c hc => ?_, ascending⟩
      rcases List.mem_cons.1 hc with rfl | hc
      · exact hlt
      · exact lt_trans hlt (hfirst c hc)
    · rename_i hnlt
      split
      · rename_i heq
        exact List.pairwise_cons.2 ⟨fun c hc => heq ▸ hfirst c hc, hrest⟩
      · rename_i hne
        have hlt : b.1 < name := lt_of_le_of_ne (not_lt.1 hnlt) (Ne.symm hne)
        refine List.pairwise_cons.2 ⟨fun c hc => ?_, ih hrest⟩
        rcases mem_insertInto hc with rfl | hc
        · exact hlt
        · exact hfirst c hc

theorem mem_of_child? {x : Entry} (h : (directory entries).child? name = some x) :
    (name, x) ∈ entries := by
  obtain ⟨⟨n, y⟩, hfind, rfl⟩ := Option.map_eq_some_iff.1 h
  have hn : n = name := by simpa using List.find?_some hfind
  exact hn ▸ List.mem_of_find?_eq_some hfind

theorem child?_of_mem (ascending : entries.Pairwise fun a b => a.1 < b.1) {a : String × Entry}
    (h : a ∈ entries) : (directory entries).child? a.1 = some a.2 := by
  induction entries with
  | nil => cases h
  | cons b rest ih =>
    obtain ⟨hfirst, hrest⟩ := List.pairwise_cons.1 ascending
    rw [child?_cons]
    rcases List.mem_cons.1 h with rfl | h
    · exact if_pos rfl
    · rw [if_neg (ne_of_lt (hfirst a h)), ih hrest h]

theorem WellFormed.of_child {x : Entry} (hwf : e.WellFormed) (h : e.child? name = some x) :
    x.WellFormed := by
  cases hwf with
  | file => cases h
  | directory _ _ below => exact below _ (mem_of_child? h)

theorem WellFormed.isName_of_child {x : Entry} (hwf : e.WellFormed)
    (h : e.child? name = some x) : Path.IsName name ∧ name ≠ ".." := by
  cases hwf with
  | file => cases h
  | directory _ named => exact named _ (mem_of_child? h)

/-- A directory that is missing is as good as an empty one. -/
theorem WellFormed.child_getD (hwf : e.WellFormed) (name : String) :
    ((e.child? name).getD (.directory [])).WellFormed := by
  cases hchild : e.child? name with
  | none => exact wellFormed_empty
  | some x => exact hwf.of_child hchild

theorem Free.child_getD (h : e.Free (name :: names)) (hnames : names ≠ []) :
    ((e.child? name).getD (directory [])).Free names := by
  cases hchild : e.child? name with
  | none => exact free_empty hnames
  | some x => exact h.2 x hchild

/-- Directories stay well formed when something is put into them. -/
theorem WellFormed.put {entry : Entry} (hentry : entry.WellFormed)
    (hnames : ∀ n ∈ names, Path.IsName n ∧ n ≠ "..") (hwf : e.WellFormed) :
    (put entry names e).WellFormed := by
  induction names generalizing e with
  | nil => exact hentry
  | cons name names ih =>
    have hinto {entries : List (String × Entry)} (hwf : (Entry.directory entries).WellFormed) :
        (Entry.put entry (name :: names) (.directory entries)).WellFormed := by
      have hnew := ih (fun n hn => hnames n (List.mem_cons_of_mem _ hn)) (hwf.child_getD name)
      cases hwf with
      | directory ascending named below =>
        refine .directory (ascending_insertInto ascending _ _) (fun a ha => ?_) fun a ha => ?_
        · rcases mem_insertInto ha with rfl | ha
          · exact hnames name List.mem_cons_self
          · exact named a ha
        · rcases mem_insertInto ha with rfl | ha
          · exact hnew
          · exact below a ha
    cases e with
    | file => exact hinto wellFormed_empty
    | directory entries => exact hinto hwf

/-! ## Listing -/

/-- What one entry of a directory adds to its listing. -/
def filesIn (enter : String → Bool) (path : Path) (a : String × Entry) : List Path :=
  if a.2.isDirectory && !enter a.1 then []
  else filesBelow enter ⟨path.absolute, path.names ++ [a.1]⟩ a.2

theorem filesAmong_eq (enter : String → Bool) (path : Path) (entries : List (String × Entry)) :
    filesAmong enter path entries = entries.flatMap (filesIn enter path) := by
  induction entries with
  | nil => rfl
  | cons a rest ih => rw [filesAmong, ih, List.flatMap_cons, filesIn]

theorem filesBelow_directory (enter : String → Bool) (path : Path)
    (entries : List (String × Entry)) :
    (directory entries).filesBelow enter path = entries.flatMap (filesIn enter path) := by
  rw [filesBelow, filesAmong_eq]

theorem filesIn_of_enter (h : enter name = true) (path : Path) (e : Entry) :
    filesIn enter path (name, e) =
      e.filesBelow enter ⟨path.absolute, path.names ++ [name]⟩ := by
  simp [filesIn, h]

theorem filesIn_child (h : enter name = true) (path : Path) (e : Entry) :
    ((e.child? name).map (name, ·)).toList.flatMap (filesIn enter path) =
      ((e.child? name).getD (directory [])).filesBelow enter
        ⟨path.absolute, path.names ++ [name]⟩ := by
  cases e.child? name with
  | none => rfl
  | some x => simp [filesIn_of_enter h]

/-- What changes below one name of a directory changes so in its listing. -/
theorem filesBelow_insertInto (ascending : entries.Pairwise fun a b => a.1 < b.1) {entry : Entry}
    {path file : Path} {before after : List Path}
    (hold : (((directory entries).child? name).map (name, ·)).toList.flatMap (filesIn enter path) =
      before ++ after)
    (hnew : filesIn enter path (name, entry) = before ++ file :: after) :
    ∃ before after, (directory entries).filesBelow enter path = before ++ after ∧
      (directory (insertInto name entry entries)).filesBelow enter path =
        before ++ file :: after := by
  obtain ⟨as, bs, hsplit, hinsert⟩ := exists_insertInto ascending name entry
  refine ⟨as.flatMap (filesIn enter path) ++ before, after ++ bs.flatMap (filesIn enter path),
    ?_, ?_⟩
  · rw [filesBelow_directory]
    calc entries.flatMap (filesIn enter path)
        = (as ++ (((directory entries).child? name).map (name, ·)).toList ++ bs).flatMap
            (filesIn enter path) := congrArg _ hsplit
      _ = _ := by simp only [List.flatMap_append, hold, List.append_assoc]
  · rw [hinsert, filesBelow_directory, List.flatMap_append, List.flatMap_cons, hnew]
    simp only [List.append_assoc, List.cons_append]

theorem filesIn_subset (enter : String → Bool) (path : Path) (a : String × Entry) :
    List.Sublist (filesIn enter path a)
      (a.2.filesBelow enter ⟨path.absolute, path.names ++ [a.1]⟩) := by
  unfold filesIn
  split
  · exact List.nil_sublist _
  · exact List.Sublist.refl _

/-- What stands at the end of names from an entry downwards. -/
def below? : List String → Entry → Option Entry
  | [], e => some e
  | name :: names, e => (e.child? name).bind (below? names)

/-- What is put somewhere stands there. -/
theorem below?_put (entry : Entry) (names : List String) (e : Entry) :
    (put entry names e).below? names = some entry := by
  induction names generalizing e with
  | nil => rfl
  | cons name names ih =>
    have hchild (entries : List (String × Entry)) (x : Entry) :
        (directory (insertInto name x entries)).child? name = some x := by
      rw [child?_insertInto, if_pos rfl]
    unfold put
    dsimp only
    rw [below?, hchild]
    exact ih _

/-- A file that is listed stands below the directory. -/
theorem exists_names_of_mem (hwf : e.WellFormed) {path file : Path}
    (h : file ∈ e.filesBelow enter path) :
    ∃ names, file = ⟨path.absolute, path.names ++ names⟩ ∧
      (∀ n ∈ names, Path.IsName n ∧ n ≠ "..") ∧
      ∃ contents, e.below? names = some (.file contents) := by
  induction hwf generalizing path with
  | file contents =>
    rw [filesBelow, List.mem_singleton] at h
    exact ⟨[], by rw [h, List.append_nil], List.forall_mem_nil _, contents, rfl⟩
  | directory ascending named _ ih =>
    rw [filesBelow_directory] at h
    obtain ⟨a, ha, hfile⟩ := List.mem_flatMap.1 h
    obtain ⟨names, hpath, hnames, contents, hbelow⟩ := ih a ha ((filesIn_subset _ _ _).subset hfile)
    refine ⟨a.1 :: names, by simpa using hpath, List.forall_mem_cons.2 ⟨named a ha, hnames⟩,
      contents, ?_⟩
    rw [below?, child?_of_mem ascending ha]
    exact hbelow

/-- No file is listed twice. -/
theorem nodup_filesBelow (hwf : e.WellFormed) (enter : String → Bool) (path : Path) :
    (e.filesBelow enter path).Nodup := by
  induction hwf generalizing path with
  | file => exact List.nodup_singleton _
  | directory ascending _ below ih =>
    rw [filesBelow_directory, List.nodup_flatMap]
    refine ⟨fun a ha => ?_, ?_⟩
    · exact (ih a ha _).sublist (filesIn_subset enter path a)
    · refine ascending.imp_of_mem fun {a b} ha hb hlt => ?_
      -- Below different names no two paths are the same.
      have hbelow (c) (hc : WellFormed c.2) (q) (hq : q ∈ filesIn enter path c) :
          ∃ names, q.names = path.names ++ c.1 :: names := by
        obtain ⟨names, hpath, -⟩ := exists_names_of_mem hc ((filesIn_subset _ _ _).subset hq)
        exact ⟨names, by rw [hpath]; simp⟩
      intro q hqa hqb
      obtain ⟨as, has⟩ := hbelow a (below a ha) q hqa
      obtain ⟨bs, hbs⟩ := hbelow b (below b hb) q hqb
      rw [has, List.append_cancel_left_eq, List.cons.injEq] at hbs
      exact absurd hbs.1 (ne_of_lt hlt)

/-- **A new file is listed at its place**, and nothing else changes in the listing, if the
directories on the way are entered. -/
theorem filesBelow_put (hwf : e.WellFormed) (hfree : e.Free names)
    (henter : ∀ n ∈ names.dropLast, enter n = true) (contents : Except FileError String)
    (path : Path) :
    ∃ before after, e.filesBelow enter path = before ++ after ∧
      (put (.file contents) names e).filesBelow enter path =
        before ++ ⟨path.absolute, path.names ++ names⟩ :: after := by
  induction names generalizing e path with
  | nil => exact hfree.elim
  | cons name names ih =>
    cases hentry : hwf with
    | file => cases hfree.1
    | @directory entries ascending =>
      cases names with
      | nil =>
        have hnone : (directory entries).child? name = none :=
          Option.eq_none_iff_forall_ne_some.2 fun below hsome => hfree.2 below hsome
        have hold : (((directory entries).child? name).map (name, ·)).toList.flatMap
            (filesIn enter path) = [] ++ [] := by
          rw [hnone]
          rfl
        exact filesBelow_insertInto ascending hold rfl
      | cons next rest =>
        have hname : enter name = true := henter name List.mem_cons_self
        obtain ⟨before, after, hbefore, hafter⟩ := ih (hwf.child_getD name)
          (hfree.child_getD (List.cons_ne_nil next rest))
          (fun n hn => henter n (List.mem_cons_of_mem _ hn)) ⟨path.absolute, path.names ++ [name]⟩
        refine filesBelow_insertInto ascending ((filesIn_child hname path _).trans hbefore) ?_
        rw [filesIn_of_enter hname, hafter, List.append_assoc]
        rfl

/-! ## What stands at a place -/

/-- What stands at a place after a file was put at the end of other names from the root. -/
def grow (full : List String) (contents : Except FileError String) (names : List String)
    (e : Entry) : Entry :=
  if names <+: full then put (.file contents) (full.drop names.length) e else e

variable {full rest : List String} {contents : Except FileError String}

theorem grow_append (e : Entry) :
    grow (names ++ rest) contents names e = put (.file contents) rest e := by
  rw [grow, if_pos (List.prefix_append _ _), List.drop_left]

theorem child?_put (name : String) (e : Entry) (other : String) :
    (put (.file contents) (name :: rest) e).child? other =
      if name = other then some (put (.file contents) rest ((e.child? name).getD (directory [])))
      else e.child? other := by
  cases e with
  | file => exact child?_insertInto _ _ _ _
  | directory entries => exact child?_insertInto _ _ _ _

/-- Nothing is put over a file. -/
theorem grow_file (hfree : ∀ rest, full = names ++ rest → Free rest e)
    (hfile : e.isDirectory = false) : grow full contents names e = e := by
  refine if_neg ?_
  rintro ⟨rest, hfull⟩
  rw [(hfree rest hfull.symm).isDirectory] at hfile
  cases hfile

theorem isDirectory_grow (hfree : ∀ rest, full = names ++ rest → Free rest e)
    (hdirectory : e.isDirectory = true) : (grow full contents names e).isDirectory = true := by
  by_cases hway : names <+: full
  · obtain ⟨rest, rfl⟩ := hway
    rw [grow_append]
    cases rest with
    | nil => exact (hfree [] rfl).elim
    | cons name rest => rfl
  · rwa [grow, if_neg hway]

/-- What stood in a directory stands there still. -/
theorem child?_grow (hfree : ∀ rest, full = names ++ rest → Free rest e) {x : Entry}
    (hchild : e.child? name = some x) :
    (grow full contents names e).child? name = some (grow full contents (names ++ [name]) x) := by
  by_cases hway : names <+: full
  · obtain ⟨rest, rfl⟩ := hway
    rw [grow_append]
    cases rest with
    | nil => exact (hfree [] rfl).elim
    | cons next rest =>
      rw [child?_put]
      by_cases hnext : next = name
      · subst hnext
        have hcut : names ++ next :: rest = (names ++ [next]) ++ rest := by simp
        rw [if_pos rfl, hchild, hcut, grow_append]
        rfl
      · have haside : ¬ names ++ [name] <+: names ++ next :: rest := by
          rw [List.prefix_append_right_inj, List.cons_prefix_cons]
          exact fun h => hnext h.1.symm
        rw [if_neg hnext, hchild, grow, if_neg haside]
  · have hbeyond : ¬ names ++ [name] <+: full := fun h =>
      hway ((List.prefix_append _ _).trans h)
    rw [grow, if_neg hway, hchild, grow, if_neg hbeyond]

end Entry

/-! ## Following names -/

namespace Location

variable {l m : Location} {name : String} {root : Entry}

/-- The places in a tree, each reached by its own names. -/
inductive Within (root : Entry) : Location → Prop
  | top : Within root ⟨root, [], []⟩
  | child {l : Location} {name : String} {e : Entry} (h : Within root l)
      (hchild : l.entry.child? name = some e) :
      Within root ⟨e, l.names ++ [name], l.entry :: l.above⟩

/-- What one name can do: stay, go up, or go down. -/
theorem step_cases (h : l.step name = .ok m) :
    l.entry.isDirectory = true ∧
      ((name = "" ∨ name = ".") ∧ m = l ∨
        name = ".." ∧ (l.above = [] ∧ m = l ∨
          ∃ dir above, l.above = dir :: above ∧ m = ⟨dir, l.names.dropLast, above⟩) ∨
        (¬ (name = "" ∨ name = ".") ∧ name ≠ "..") ∧ ∃ e, l.entry.child? name = some e ∧
          m = ⟨e, l.names ++ [name], l.entry :: l.above⟩) := by
  unfold step at h
  split at h
  · cases h
  · rename_i hdirectory
    refine ⟨by simpa using hdirectory, ?_⟩
    split at h
    · rename_i hstay
      cases h
      exact Or.inl ⟨by simpa using hstay, rfl⟩
    · rename_i hstay
      split at h
      · rename_i hup
        refine Or.inr (Or.inl ⟨by simpa using hup, ?_⟩)
        split at h
        · rename_i dir above habove
          cases h
          exact Or.inr ⟨dir, above, habove, rfl⟩
        · rename_i habove
          cases h
          exact Or.inl ⟨habove, rfl⟩
      · rename_i hup
        refine Or.inr (Or.inr ⟨⟨by simpa using hstay, by simpa using hup⟩, ?_⟩)
        split at h
        · rename_i e hchild
          cases h
          exact ⟨e, hchild, rfl⟩
        · cases h

theorem Within.step (hl : Within root l) (h : l.step name = .ok m) : Within root m := by
  obtain ⟨-, ⟨-, rfl⟩ | ⟨-, ⟨-, rfl⟩ | ⟨dir, above, habove, rfl⟩⟩ | ⟨-, e, hchild, rfl⟩⟩ :=
    step_cases h
  · exact hl
  · exact hl
  · cases hl with
    | top => cases habove
    | child hl _ =>
      cases habove
      rw [List.dropLast_concat]
      exact hl
  · exact hl.child hchild

theorem Within.wellFormed (hl : Within root l) (hroot : root.WellFormed) :
    l.entry.WellFormed := by
  induction hl with
  | top => exact hroot
  | child _ hchild ih => exact ih.of_child hchild

theorem Within.named (hl : Within root l) (hroot : root.WellFormed) :
    ∀ n ∈ l.names, Path.IsName n ∧ n ≠ ".." := by
  induction hl with
  | top => exact fun n hn => absurd hn List.not_mem_nil
  | child hl hchild ih =>
    refine List.forall_mem_append.2 ⟨ih, List.forall_mem_singleton.2 ?_⟩
    exact (hl.wellFormed hroot).isName_of_child hchild

/-- What is free below a place is free below the root. -/
theorem Within.free_iff (hl : Within root l) (rest : List String) :
    root.Free (l.names ++ rest) ↔ l.entry.Free rest := by
  induction hl generalizing rest with
  | top => exact Iff.rfl
  | @child l name e _ hchild ih =>
    rw [List.append_assoc, List.singleton_append, ih]
    constructor
    · exact fun h => h.2 e hchild
    · refine fun h => ⟨Entry.isDirectory_of_child? hchild, fun below hbelow => ?_⟩
      cases hchild.symm.trans hbelow
      exact h

/-- Names lead from a place to what stands at their end. -/
theorem foldlM_step_of_below? {names : List String} {e : Entry}
    (hnames : ∀ n ∈ names, Path.IsName n ∧ n ≠ "..") (h : l.entry.below? names = some e) :
    ∃ m, names.foldlM step l = .ok m ∧ m.entry = e := by
  induction names generalizing l with
  | nil => exact ⟨l, rfl, Option.some.inj h⟩
  | cons name names ih =>
    obtain ⟨⟨hname, hup⟩, hrest⟩ := List.forall_mem_cons.1 hnames
    obtain ⟨x, hchild, hx⟩ := Option.bind_eq_some_iff.1 h
    have hstep : l.step name = .ok ⟨x, l.names ++ [name], l.entry :: l.above⟩ := by
      simp [step, Entry.isDirectory_of_child? hchild, hname.ne_empty, hname.ne_dot, hup, hchild]
    rw [List.foldlM_cons, hstep]
    exact ih hrest hx

/-- The directories on the way back to the root, after a file was put. -/
def growAbove (full : List String) (contents : Except FileError String) :
    List String → List Entry → List Entry
  | _, [] => []
  | names, e :: above => e.grow full contents names :: growAbove full contents names.dropLast above

/-- The same place after a file was put at the end of names from the root. -/
def grow (full : List String) (contents : Except FileError String) (l : Location) : Location :=
  ⟨l.entry.grow full contents l.names, l.names, growAbove full contents l.names.dropLast l.above⟩

variable {full : List String} {contents : Except FileError String}

/-- A name leads to the same place as before. -/
theorem step_grow (hfree : root.Free full) (hl : Within root l) (h : l.step name = .ok m) :
    (l.grow full contents).step name = .ok (m.grow full contents) := by
  have hbelow : ∀ rest, full = l.names ++ rest → l.entry.Free rest := fun rest hrest =>
    (hl.free_iff rest).1 (hrest ▸ hfree)
  obtain ⟨hdirectory, hm⟩ := step_cases h
  have hgrown : (l.grow full contents).entry.isDirectory = true :=
    Entry.isDirectory_grow hbelow hdirectory
  unfold step
  rw [hgrown]
  obtain ⟨hstay, rfl⟩ | ⟨rfl, hup⟩ | ⟨⟨hstay, hup⟩, e, hchild, rfl⟩ := hm
  · simp [hstay]
  · obtain ⟨habove, rfl⟩ | ⟨dir, above, habove, rfl⟩ := hup
    · simp [grow, habove, growAbove]
    · simp [grow, habove, growAbove]
  · have hnext : (l.entry.grow full contents l.names).child? name =
        some (e.grow full contents (l.names ++ [name])) := Entry.child?_grow hbelow hchild
    simp [hstay, hup, hnext, grow, growAbove]

end Location

namespace Disk

variable {d : Disk} {names full : List String} {path : String} {l : Location}
  {contents : Except FileError String}

/-- Names lead to a place in the tree, and to the same place after a file was put. -/
theorem follow_put (h : d.follow names = .ok l) :
    Location.Within d.root l ∧ ∀ full contents, d.root.Free full →
      (d.put full (.file contents)).follow names = .ok (l.grow full contents) := by
  have hfold : ∀ (names : List String) (k : Location), Location.Within d.root k →
      names.foldlM Location.step k = .ok l →
      Location.Within d.root l ∧ ∀ full contents, d.root.Free full →
        names.foldlM Location.step (k.grow full contents) = .ok (l.grow full contents) := by
    intro names
    induction names with
    | nil =>
      intro k hk h
      cases h
      exact ⟨hk, fun _ _ _ => rfl⟩
    | cons name names ih =>
      intro k hk h
      obtain ⟨next, hstep, hrest⟩ := Config.bind_eq_ok h
      obtain ⟨hwithin, hgrown⟩ := ih next (hk.step hstep) hrest
      refine ⟨hwithin, fun full contents hfree => ?_⟩
      rw [List.foldlM_cons, Location.step_grow hfree hk hstep]
      exact hgrown full contents hfree
  obtain ⟨hwithin, hgrown⟩ := hfold names _ .top h
  refine ⟨hwithin, fun full contents hfree => ?_⟩
  have htop : Entry.grow full contents [] d.root = Entry.put (.file contents) full d.root :=
    if_pos List.nil_prefix
  have hrun := hgrown full contents hfree
  rwa [Location.grow, htop] at hrun

/-- **What a path leads to after a file was put** is what it led to before. -/
theorem find_put (h : d.find path = .ok l) :
    Location.Within d.root l ∧ ∀ full contents, d.root.Free full →
      (d.put full (.file contents)).find path = .ok (l.grow full contents) := by
  unfold find at h ⊢
  split at h
  · cases h
  · rename_i hpath
    simp only [if_neg hpath]
    exact follow_put h

/-- A path that leads to a file leads to the same file afterwards. -/
theorem find_put_of_isFile (hfree : d.root.Free full) (contents : Except FileError String)
    (h : d.isFile path = true) :
    ∃ l k, d.find path = .ok l ∧ (d.put full (.file contents)).find path = .ok k ∧
      k.entry = l.entry ∧ l.entry.isDirectory = false := by
  unfold isFile at h
  split at h
  · rename_i l hl
    obtain ⟨hwithin, hgrown⟩ := find_put hl
    have hfile : l.entry.isDirectory = false := by simpa using h
    refine ⟨l, l.grow full contents, hl, hgrown full contents hfree, ?_, hfile⟩
    refine Entry.grow_file (fun rest hrest => ?_) hfile
    exact (hwithin.free_iff rest).1 (hrest ▸ hfree)
  · cases h

theorem isFile_put (hfree : d.root.Free full) (contents : Except FileError String)
    (h : d.isFile path = true) : (d.put full (.file contents)).isFile path = true := by
  obtain ⟨l, k, -, hk, hentry, hfile⟩ := find_put_of_isFile hfree contents h
  rw [isFile, hk]
  simp [hentry, hfile]

theorem read_put (hfree : d.root.Free full) (contents : Except FileError String)
    (h : d.isFile path = true) : (d.put full (.file contents)).read path = d.read path := by
  obtain ⟨l, k, hl, hk, hentry, -⟩ := find_put_of_isFile hfree contents h
  simp only [read, hl, hk, hentry]

/-! ## Paths from the root -/

theorem isDirectory_root (h : d.find path = .ok l) : d.root.isDirectory = true := by
  have hcut : path.splitOn "/" ≠ [] := by
    rw [Text.splitOn_slash]
    simp
  obtain ⟨name, names, hnames⟩ : ∃ name names, d.namesOf path = name :: names := by
    refine List.exists_cons_of_ne_nil ?_
    unfold namesOf
    split
    · exact hcut
    · exact List.append_ne_nil_of_right_ne_nil _ hcut
  unfold find follow at h
  split at h
  · cases h
  · rw [hnames] at h
    obtain ⟨m, hstep, -⟩ := Config.bind_eq_ok h
    exact (Location.step_cases hstep).1

/-- A path from the root is followed name by name. -/
theorem find_toString (hroot : d.root.isDirectory = true) {p : Path} (habsolute : p.absolute = true)
    (hnames : ∀ n ∈ p.names, Path.IsName n) : d.find p.toString = d.follow p.names := by
  have htext : p.toString = "/" ++ String.intercalate "/" p.names := by
    rw [Path.toString, if_pos habsolute]
  have hempty : ¬p.toString.isEmpty = true := by simp [htext]
  have hslash : p.toString.startsWith "/" = true := by simp [htext]
  have hstay : Location.step ⟨d.root, [], []⟩ "" = .ok ⟨d.root, [], []⟩ := by
    simp [Location.step, hroot]
  have hfirst (names : List String) : d.follow ("" :: names) = d.follow names := by
    unfold follow
    rw [List.foldlM_cons, hstay]
    rfl
  rw [find, if_neg hempty, namesOf, if_pos hslash, htext, Path.splitOn_slash_append, hfirst]
  by_cases hnone : p.names = []
  · rw [hnone, String.intercalate_nil, Text.splitOn_slash]
    exact hfirst []
  · rw [Path.splitOn_intercalate hnames hnone]

/-- What stands below a directory is found by the path of the directory with the names behind it. -/
theorem find_below {base : Path} (habsolute : base.absolute = true)
    (hbase : ∀ n ∈ base.names, Path.IsName n) (h : d.find base.toString = .ok l)
    (hnames : ∀ n ∈ names, Path.IsName n ∧ n ≠ "..") {e : Entry}
    (hbelow : l.entry.below? names = some e) :
    ∃ m, d.find (Path.toString ⟨base.absolute, base.names ++ names⟩) = .ok m ∧ m.entry = e := by
  have hroot := isDirectory_root h
  have hall : ∀ n ∈ base.names ++ names, Path.IsName n :=
    List.forall_mem_append.2 ⟨hbase, fun n hn => (hnames n hn).1⟩
  rw [find_toString hroot habsolute hbase] at h
  rw [find_toString (p := ⟨base.absolute, base.names ++ names⟩) hroot habsolute hall]
  obtain ⟨m, hm, hentry⟩ := Location.foldlM_step_of_below? hnames hbelow
  refine ⟨m, ?_, hentry⟩
  unfold follow at h ⊢
  rw [List.foldlM_append, h]
  exact hm

end Disk

end RouteInventory
