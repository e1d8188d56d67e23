import LintBridge.Proofs.FileSystem.Walk
import LintBridge.Proofs.Lists

/-! Edits keep the files a tree. A walk ends at a directory or at a place in one, so that what is put
there stands in a directory, and a directory gives way to nothing else. -/

namespace LintBridge.FileSystem

/-- There is room for something at a place: it can have that name, and a directory to stand in. -/
def IsRoom (fs : FileSystem) (place : Place) : Prop :=
  (∀ name ∈ place, IsName name) ∧ fs.node? place.dropLast = some .directory

/-- The files form a tree, and the machine works in one of its directories. -/
structure Stands (fs : FileSystem) : Prop where
  tree : fs.IsTree
  here : fs.node? fs.here = some .directory

variable {fs made : FileSystem} {follow : Bool} {path : String} {place dir : Place} {entry : Entry}
  {onLink : Place → List String → Except FileFlaw Place} {segs : List String}

/-! ### Where a walk ends -/

theorem slash_not_mem_segments (path : String) : ∀ s ∈ segments path, '/' ∉ s.toList := by
  have hsplit : ∀ cs : List Char, ∀ segment ∈ cs.splitOn '/', '/' ∉ segment := by
    intro cs
    induction cs with
    | nil => simp
    | cons c cs ih =>
      rw [List.splitOn_cons_eq_if_modifyHead]
      split
      · simpa using ih
      · rename_i hc
        obtain ⟨segment, more, hmore⟩ := List.exists_cons_of_ne_nil (List.splitOn_ne_nil '/' cs)
        rw [hmore] at ih ⊢
        obtain ⟨hsegment, hmore⟩ := List.forall_mem_cons.mp ih
        refine List.forall_mem_cons.mpr ⟨?_, hmore⟩
        rw [List.mem_cons, not_or]
        exact ⟨fun heq => hc (beq_iff_eq.mpr heq.symm), hsegment⟩
  intro s hs
  rw [segments, Path.splitSlash_eq_splitOn] at hs
  obtain ⟨segment, hsegment, rfl⟩ := List.mem_map.mp hs
  rw [String.toList_ofList]
  exact hsplit _ _ hsegment

/-- From a directory, a segment leads to a directory if the walk goes on, and to a place in it else. -/
theorem IsTree.ahead_spec (h : fs.IsTree) (hdir : fs.node? dir = some .directory) {s : String}
    (hslash : '/' ∉ s.toList) :
    match fs.ahead dir s with
    | .directory next => fs.node? next = some .directory
    | .tooLong => True
    | _ => fs.IsRoom (dir ++ [s]) := by
  rw [ahead]
  by_cases hstay : s = "" ∨ s = "."
  · simpa only [if_pos hstay] using hdir
  · by_cases hup : s = ".."
    · simpa only [if_neg hstay, if_pos hup] using (h.of_node? hdir).2
    · by_cases hlong : segmentLimit < s.utf8ByteSize
      · simp only [if_neg hstay, if_neg hup, if_pos hlong]
      · simp only [if_neg hstay, if_neg hup, if_neg hlong]
        have hroom : fs.IsRoom (dir ++ [s]) := by
          rw [not_or] at hstay
          refine ⟨fun name hname => ?_, by rw [List.dropLast_concat]; exact hdir⟩
          obtain hname | hname := List.mem_append.mp hname
          · exact (h.of_node? hdir).1 name hname
          · rw [List.mem_singleton.mp hname]
            exact ⟨hstay.1, hstay.2, hup, hslash, Nat.le_of_not_lt hlong⟩
        cases hnode : fs.node? (dir ++ [s]) with
        | none => exact hroom
        | some node =>
          cases node with
          | directory => exact hnode
          | _ => exact hroom

theorem IsTree.walkWith_isRoom (h : fs.IsTree) (hdir : fs.node? dir = some .directory)
    (hsegs : ∀ s ∈ segs, '/' ∉ s.toList)
    (hlink : ∀ dir segs, fs.node? dir = some .directory → (∀ s ∈ segs, '/' ∉ s.toList) →
      onLink dir segs = .ok place → fs.IsRoom place)
    (hwalk : fs.walkWith follow onLink dir segs = .ok place) : fs.IsRoom place := by
  induction segs generalizing dir with
  | nil =>
    cases hwalk
    exact h.of_node? hdir
  | cons s segs ih =>
    obtain ⟨hslash, hsegs⟩ := List.forall_mem_cons.mp hsegs
    have hspec := h.ahead_spec hdir hslash
    rw [walkWith_cons] at hwalk
    cases hahead : fs.ahead dir s with
    | directory next =>
      rw [hahead] at hwalk hspec
      exact ih hspec hsegs hwalk
    | tooLong => simp [hahead] at hwalk
    | link target =>
      simp only [hahead] at hwalk hspec
      split at hwalk
      · cases hwalk
        exact hspec
      · refine hlink _ _ ?_ (fun s hs => ?_) hwalk
        · split
          · rfl
          · exact hdir
        · exact (List.mem_append.mp hs).elim (slash_not_mem_segments _ _) (hsegs s)
    | _ =>
      simp only [hahead] at hwalk hspec
      split at hwalk
      · cases hwalk
        exact hspec
      · cases hwalk

theorem IsTree.walk_isRoom (h : fs.IsTree) (hdir : fs.node? dir = some .directory)
    (hsegs : ∀ s ∈ segs, '/' ∉ s.toList) {budget : Nat}
    (hwalk : fs.walk follow budget dir segs = .ok place) : fs.IsRoom place := by
  induction budget generalizing dir segs with
  | zero => exact h.walkWith_isRoom hdir hsegs (fun _ _ _ _ h => by cases h) hwalk
  | succ budget ih => exact h.walkWith_isRoom hdir hsegs (fun _ _ hd hs hw => ih hd hs hw) hwalk

/-- A path leads to a place where there is room. -/
theorem Stands.isRoom (h : fs.Stands) (hpath : fs.locate follow path = .ok place) :
    fs.IsRoom place := by
  obtain ⟨-, -, -, hwalk⟩ := locate_eq_ok_iff.mp hpath
  refine h.tree.walk_isRoom ?_ (slash_not_mem_segments path) hwalk
  rw [start]
  split
  · rfl
  · exact h.here

/-! ### Something more -/

theorem lookup_put (fs : FileSystem) (place : Place) (entry : Entry) (q : Place) :
    (fs.put place entry).entries.lookup q =
      if q = place then some entry else fs.entries.lookup q := by
  rw [put]
  split
  · rename_i hold
    have hentries : (fs.entries.map fun p => if p.1 = place then (place, entry) else p) =
        fs.entries.map fun p => if p.1 == place then (p.1, entry) else p := by
      refine List.map_congr_left fun p _ => ?_
      by_cases hp : p.1 = place <;> simp [hp]
    dsimp only
    rw [hentries, Table.lookup_map _ _ fun _ => entry]
    by_cases hq : q = place
    · obtain ⟨e, he⟩ := Option.isSome_iff_exists.mp hold
      simp [hq, he]
    · simp [hq]
  · rename_i hnew
    rw [Bool.not_eq_true, Option.isSome_eq_false_iff, Option.isNone_iff_eq_none] at hnew
    rw [List.lookup_append, Table.lookup_cons]
    by_cases hq : q = place
    · simp [hq, hnew]
    · simp [hq]

theorem node?_put (hkeep : fs.node? place = some .directory → entry.node = .directory)
    (q : Place) : (fs.put place entry).node? q = if q = place then some entry.node
      else fs.node? q := by
  by_cases hnil : q = []
  · subst hnil
    split
    · rename_i heq
      subst heq
      rw [hkeep rfl]
      rfl
    · rfl
  · rw [node?, entry?_of_ne_nil _ hnil, lookup_put, node?, entry?_of_ne_nil _ hnil]
    split <;> rfl

theorem mem_put {p : Place × Entry} (hp : p ∈ (fs.put place entry).entries) :
    p.1 = place ∨ p ∈ fs.entries := by
  rw [put] at hp
  split at hp
  · obtain ⟨old, hold, rfl⟩ := List.mem_map.mp hp
    split
    · exact .inl rfl
    · exact .inr hold
  · obtain hp | hp := List.mem_append.mp hp
    · exact .inr hp
    · exact .inl (by rw [List.mem_singleton.mp hp])

theorem IsTree.nodup_put (h : fs.IsTree) (place : Place) (entry : Entry) :
    ((fs.put place entry).entries.map Prod.fst).Nodup := by
  rw [put]
  split
  · have hplaces : (fs.entries.map fun p => if p.1 = place then (place, entry) else p).map
        Prod.fst = fs.entries.map Prod.fst := by
      rw [List.map_map]
      refine List.map_congr_left fun p _ => ?_
      by_cases hp : p.1 = place <;> simp [hp]
    dsimp only
    rw [hplaces]
    exact h.places
  · rename_i hnew
    rw [List.map_append]
    refine List.nodup_append.mpr ⟨h.places, List.nodup_singleton _, fun q hq q' hq' heq => hnew ?_⟩
    obtain ⟨p, hp, rfl⟩ := List.mem_map.mp hq
    have hplace : p.1 = place := heq.trans (List.mem_singleton.mp hq')
    rw [← hplace, Table.lookup_of_mem h.places hp]
    rfl

/-- Where there is room something can be put, but nothing else than a directory in a directory's
place. -/
theorem IsTree.put (h : fs.IsTree) (hroom : fs.IsRoom place)
    (hkeep : fs.node? place = some .directory → entry.node = .directory) :
    (fs.put place entry).IsTree where
  places := h.nodup_put place entry
  names p hp := by
    obtain heq | hp := mem_put hp
    · rw [heq]
      exact hroom.1
    · exact h.names p hp
  parents p hp := by
    have hparent : fs.node? p.1.dropLast = some .directory := by
      obtain heq | hp := mem_put hp
      · rw [heq]
        exact hroom.2
      · exact h.parents p hp
    rw [node?_put hkeep]
    split
    · rename_i heq
      rw [hkeep (heq ▸ hparent)]
    · exact hparent

theorem here_put (fs : FileSystem) (place : Place) (entry : Entry) :
    (fs.put place entry).here = fs.here := by
  rw [put]
  split <;> rfl

theorem here_putNode (fs : FileSystem) (place : Place) (node : Node) :
    (fs.putNode place node).here = fs.here :=
  here_put fs place ⟨node, fs.clock⟩

theorem Stands.put (h : fs.Stands) (hroom : fs.IsRoom place)
    (hkeep : fs.node? place = some .directory → entry.node = .directory) :
    (fs.put place entry).Stands where
  tree := h.tree.put hroom hkeep
  here := by
    rw [here_put, node?_put hkeep]
    split
    · rename_i heq
      rw [hkeep (heq ▸ h.here)]
    · exact h.here

/-- Files form a tree whatever the clock says and wherever the machine works. -/
theorem IsTree.congr {fs' : FileSystem} (h : fs.IsTree) (same : fs.entries = fs'.entries) :
    fs'.IsTree := by
  have hnode : ∀ q, fs'.node? q = fs.node? q := by
    intro q
    by_cases hnil : q = []
    · rw [hnil]
      rfl
    · rw [node?, node?, entry?_of_ne_nil _ hnil, entry?_of_ne_nil _ hnil, same]
  refine ⟨same ▸ h.places, same ▸ h.names, fun p hp => ?_⟩
  rw [hnode]
  exact h.parents p (same ▸ hp)

theorem Stands.putNode (h : fs.Stands) (hroom : fs.IsRoom place) {node : Node}
    (hkeep : fs.node? place = some .directory → node = .directory) :
    (fs.putNode place node).Stands :=
  have hput : (fs.put place ⟨node, fs.clock⟩).Stands := h.put hroom hkeep
  ⟨hput.tree.congr rfl, hput.here⟩

/-! ### Edits -/

theorem Stands.makeDirectory (h : fs.Stands) (hmade : fs.makeDirectory path = .ok made) :
    made.Stands := by
  rw [FileSystem.makeDirectory] at hmade
  split at hmade
  · cases hmade
  · rename_i place hpath
    split at hmade
    · cases hmade
    · cases hmade
      exact h.putNode (h.isRoom hpath) fun _ => rfl

/-- The last directory is there, or nothing, or is made. -/
theorem eq_or_makeDirectory {stop : Bool} (hmade : (if stop then pure fs
    else match fs.makeDirectory path with
      | .ok made => .ok made
      | .error e => if fs.isDirectory path then .ok fs else .error e) =
        (.ok made : Except Fault FileSystem)) :
    made = fs ∨ fs.makeDirectory path = .ok made := by
  split at hmade
  · exact .inl (Except.ok.inj hmade).symm
  · split at hmade
    · rename_i hmake
      exact .inr (hmake.trans hmade)
    · split at hmade
      · exact .inl (Except.ok.inj hmade).symm
      · cases hmade

/-- Directories are made from the first to the last. -/
theorem makeDirectoriesTo_cases {depth : Nat}
    (hmade : makeDirectoriesTo (depth + 1) fs path = .ok made) :
    ∃ parent head, (parent = fs ∨ makeDirectoriesTo depth fs head = .ok parent) ∧
      (made = parent ∨ parent.makeDirectory path = .ok made) := by
  rw [FileSystem.makeDirectoriesTo] at hmade
  split at hmade
  split at hmade
  split at hmade
  · dsimp only at hmade
    split at hmade <;> exact ⟨fs, path, .inl rfl, eq_or_makeDirectory hmade⟩
  · dsimp only at hmade
    split at hmade
    · obtain ⟨parent, hparent, hmade⟩ := bind_eq_ok hmade
      exact ⟨parent, _, .inr hparent, eq_or_makeDirectory hmade⟩
    · exact ⟨fs, path, .inl rfl, eq_or_makeDirectory hmade⟩

theorem Stands.makeDirectoriesTo {depth : Nat} (h : fs.Stands)
    (hmade : makeDirectoriesTo depth fs path = .ok made) : made.Stands := by
  induction depth generalizing fs path made with
  | zero =>
    cases hmade
    exact h
  | succ depth ih =>
    obtain ⟨parent, head, hparent, hlast⟩ := makeDirectoriesTo_cases hmade
    have hstands : parent.Stands := by
      obtain rfl | hparent := hparent
      · exact h
      · exact ih h hparent
    obtain rfl | hlast := hlast
    · exact hstands
    · exact hstands.makeDirectory hlast

theorem Stands.withParents (h : fs.Stands) (path : String) : (fs.withParents path).Stands := by
  unfold FileSystem.withParents
  cases hmade : fs.makeDirectories (splitLast path).1 with
  | error e => exact h
  | ok made =>
    rw [makeDirectories] at hmade
    exact h.makeDirectoriesTo hmade

theorem Stands.write (h : fs.Stands) (path : String) (node : Node) :
    (fs.write path node).Stands := by
  rw [FileSystem.write]
  split
  · exact h
  · rename_i place hpath
    split
    · exact h
    · exact h
    · rename_i hdirectory _
      exact h.putNode (h.isRoom hpath) fun hnode => (hdirectory hnode).elim

theorem IsTree.touch (h : fs.IsTree) (path : String) (changed : Int) :
    (fs.touch path changed).IsTree := by
  rw [FileSystem.touch]
  split
  · exact h
  · rename_i place _
    split
    · rename_i e he
      have hnode : fs.node? place = some e.node := by rw [node?, he]; rfl
      exact h.put (h.of_node? hnode) fun hd => Option.some.inj (hnode.symm.trans hd)
    · exact h

theorem IsTree.touched (h : fs.IsTree) (path : String) (changed : Option Int) :
    (match changed with
      | some t => fs.touch path t
      | none => fs).IsTree := by
  cases changed with
  | none => exact h
  | some t => exact h.touch path t

/-- An edit keeps the files a tree. -/
theorem Stands.apply (h : fs.Stands) (e : Edit) : (fs.apply e).IsTree := by
  have hparents := h.withParents e.path
  refine IsTree.touched ?_ e.path e.changed
  cases e.change with
  | write node => exact (hparents.write e.path node).tree
  | link target =>
    dsimp only
    split
    · exact hparents.tree
    · rename_i place hpath
      split
      · exact hparents.tree
      · rename_i hfree
        refine (hparents.putNode (hparents.isRoom hpath) fun hnode => ?_).tree
        simp [hnode] at hfree
  | remove =>
    dsimp only
    split
    · exact h.tree
    · exact h.tree.erase _

theorem here_makeDirectory (hmade : fs.makeDirectory path = .ok made) : made.here = fs.here := by
  rw [makeDirectory] at hmade
  split at hmade
  · cases hmade
  · split at hmade <;> cases hmade
    exact here_putNode _ _ _

theorem here_makeDirectoriesTo {depth : Nat} (hmade : makeDirectoriesTo depth fs path = .ok made) :
    made.here = fs.here := by
  induction depth generalizing fs path made with
  | zero =>
    cases hmade
    rfl
  | succ depth ih =>
    obtain ⟨parent, head, hparent, hlast⟩ := makeDirectoriesTo_cases hmade
    have hhere : parent.here = fs.here := by
      obtain rfl | hparent := hparent
      · rfl
      · exact ih hparent
    obtain rfl | hlast := hlast
    · exact hhere
    · exact (here_makeDirectory hlast).trans hhere

theorem here_withParents (fs : FileSystem) (path : String) :
    (fs.withParents path).here = fs.here := by
  unfold withParents
  cases hmade : fs.makeDirectories (splitLast path).1 with
  | error e => rfl
  | ok made => exact here_makeDirectoriesTo hmade

theorem here_touch (fs : FileSystem) (path : String) (changed : Int) :
    (fs.touch path changed).here = fs.here := by
  rw [touch]
  split
  · rfl
  · split
    · exact here_put _ _ _
    · rfl

theorem here_write (fs : FileSystem) (path : String) (node : Node) :
    (fs.write path node).here = fs.here := by
  rw [write]
  split
  · rfl
  · split
    · rfl
    · rfl
    · exact here_putNode _ _ _

/-- No edit sends the machine to another directory. -/
theorem here_apply (fs : FileSystem) (e : Edit) : (fs.apply e).here = fs.here := by
  have hdone : ∀ done : FileSystem, done.here = fs.here → (match e.changed with
      | some t => done.touch e.path t
      | none => done).here = fs.here := by
    intro done hdone
    split
    · rw [here_touch, hdone]
    · exact hdone
  rw [apply]
  refine hdone _ ?_
  cases e.change with
  | write node =>
    dsimp only
    rw [here_write, here_withParents]
  | link target =>
    dsimp only
    split
    · exact here_withParents fs e.path
    · split
      · exact here_withParents fs e.path
      · rw [here_putNode, here_withParents]
  | remove =>
    dsimp only
    split <;> rfl

theorem here_applyAll (fs : FileSystem) (es : List Edit) : (fs.applyAll es).here = fs.here := by
  induction es generalizing fs with
  | nil => rfl
  | cons e es ih => exact (ih (fs.apply e)).trans (here_apply fs e)

/-- Edits keep the files a tree, as long as the directory stays in which the machine works. -/
theorem Stands.applyAll (h : fs.Stands) {es : List Edit}
    (stays : ∀ early, early <+: es → (fs.applyAll early).node? fs.here = some .directory) :
    (fs.applyAll es).Stands := by
  induction es using List.reverseRecOn with
  | nil => exact h
  | append_singleton es e ih =>
    have hfront := ih fun early hearly => stays early (hearly.trans (List.prefix_append _ _))
    have hlast : fs.applyAll (es ++ [e]) = (fs.applyAll es).apply e := by
      rw [FileSystem.applyAll, List.foldl_concat]
      rfl
    refine ⟨hlast ▸ hfront.apply e, ?_⟩
    rw [here_applyAll]
    exact stays _ (List.prefix_refl _)

/-- The directories that lead to the one in which the machine works form a tree. -/
theorem stands_empty {here : Place} (h : ∀ name ∈ here, IsName name) : (empty here).Stands := by
  have hentries : (empty here).entries =
      (List.range here.length).map fun k => (here.take (k + 1), ⟨.directory, 0⟩) := rfl
  have hplaces : ((empty here).entries.map Prod.fst).Nodup := by
    rw [hentries, List.map_map]
    refine List.Nodup.map_on (fun k hk k' hk' heq => ?_) List.nodup_range
    have hlengths := congrArg List.length heq
    simp only [Function.comp_apply, List.length_take, List.mem_range] at hlengths hk hk'
    omega
  have hnode : ∀ k ≤ here.length, (empty here).node? (here.take k) = some .directory := by
    intro k hk
    cases k with
    | zero => rfl
    | succ k =>
      have hne : here.take (k + 1) ≠ [] := List.ne_nil_of_length_pos (by simp; omega)
      have hmem : (here.take (k + 1), (⟨.directory, 0⟩ : Entry)) ∈ (empty here).entries :=
        hentries ▸ List.mem_map_of_mem (List.mem_range.mpr hk)
      rw [node?, entry?_of_ne_nil _ hne, Table.lookup_of_mem hplaces hmem]
      rfl
  refine ⟨⟨hplaces, fun p hp name hname => ?_, fun p hp => ?_⟩, ?_⟩
  · rw [hentries] at hp
    obtain ⟨k, -, rfl⟩ := List.mem_map.mp hp
    exact h name (List.mem_of_mem_take hname)
  · rw [hentries] at hp
    obtain ⟨k, hk, rfl⟩ := List.mem_map.mp hp
    have hk := List.mem_range.mp hk
    have hparent : (here.take (k + 1)).dropLast = here.take k := by
      rw [List.dropLast_eq_take, List.length_take, List.take_take]
      congr 1
      omega
    exact hparent ▸ hnode k (Nat.le_of_lt hk)
  · have hhere := hnode here.length (Nat.le_refl _)
    rw [List.take_length] at hhere
    exact hhere

/-- Whatever is edited on a new machine, its files form a tree, as long as the directory stays in
which it works. -/
theorem stands_of_edits {here : Place} (names : ∀ name ∈ here, IsName name) {es : List Edit}
    (stays : ∀ early, early <+: es → ((empty here).applyAll early).node? here = some .directory) :
    ((empty here).applyAll es).Stands :=
  (stands_empty names).applyAll stays

end LintBridge.FileSystem
