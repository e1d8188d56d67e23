import LintBridge.Documents
import LintBridge.Proofs.Lists
import LintBridge.Proofs.Table

/-! The documents that an editor has open. Every one is kept once, under the name of its URI, as
long as undoing the escapes of a name twice is undoing them once. Opening a document and giving it
a new text touches the entry of one name; closing it drops that entry. -/

namespace LintBridge.Documents

/-! ### Entries -/

theorem mem_putEntry {name : String} {d : Document} {es : List (String × Document)}
    {p : String × Document} (hp : p ∈ putEntry name d es) : p = (name, d) ∨ p ∈ es := by
  induction es with
  | nil => exact .inl (List.mem_singleton.mp hp)
  | cons e es ih =>
    unfold putEntry at hp
    split at hp
    · rename_i hname
      obtain rfl | hp := List.mem_cons.mp hp
      · exact .inl (by rw [hname])
      · exact .inr (List.mem_cons_of_mem _ hp)
    · obtain rfl | hp := List.mem_cons.mp hp
      · exact .inr List.mem_cons_self
      · exact (ih hp).imp_right (List.mem_cons_of_mem _)

/-- A new name comes last. -/
theorem names_putEntry (name : String) (d : Document) (es : List (String × Document)) :
    (putEntry name d es).map Prod.fst =
      if name ∈ es.map Prod.fst then es.map Prod.fst else es.map Prod.fst ++ [name] := by
  induction es with
  | nil => rfl
  | cons e es ih =>
    unfold putEntry
    by_cases hname : e.1 = name
    · simp [hname]
    · have hne : ¬ name = e.1 := fun h => hname h.symm
      rw [if_neg hname, List.map_cons, ih, List.map_cons]
      by_cases hmem : name ∈ es.map Prod.fst
      · rw [if_pos hmem, if_pos (List.mem_cons_of_mem _ hmem)]
      · rw [if_neg hmem, if_neg (by simp [hne]; simpa using hmem)]
        rfl

/-- Every document is kept once, under the name of its URI. -/
structure Sound (ds : Documents) : Prop where
  names : (ds.entries.map Prod.fst).Nodup
  named : ∀ p ∈ ds.entries, p.1 = nameOf p.2.uri
  /-- A name has no escapes left. -/
  stable : ∀ p ∈ ds.entries, nameOf p.1 = p.1

variable {ds ds' ds'' : Documents}

theorem sound_empty : empty.Sound :=
  ⟨List.nodup_nil, by simp [empty], by simp [empty]⟩

theorem Sound.get?_uri (h : ds.Sound) {name : String} {d : Document}
    (hd : (name, d) ∈ ds.entries) : ds.get? d.uri = some d := by
  have hname : name = nameOf d.uri := h.named (name, d) hd
  rw [get?, ← hname]
  exact Table.lookup_of_mem h.names hd

theorem Sound.get?_name (h : ds.Sound) {name : String} {d : Document}
    (hd : (name, d) ∈ ds.entries) : ds.get? name = some d := by
  have hname : nameOf name = name := h.stable (name, d) hd
  rw [get?, hname]
  exact Table.lookup_of_mem h.names hd

theorem mem_of_get? {uri : String} {d : Document} (hd : ds.get? uri = some d) :
    (nameOf uri, d) ∈ ds.entries :=
  Table.mem_of_lookup hd

/-- All open documents are found by their names. -/
theorem Sound.all (h : ds.Sound) (fs : FileSystem) :
    ds.all fs = .ok (ds.entries.map Prod.snd) := by
  refine mapM_eq_ok_iff.mpr (List.forall₂_map_right_iff.mpr (List.forall₂_same.mpr fun p hp => ?_))
  rw [fetch, h.get?_name hp]

/-! ### Changes -/

/-- From `ds` to `ds'` only the document of one name was touched, and its URI is an old one or
`uri`. -/
structure Touches (uri : String) (ds ds' : Documents) : Prop where
  sound : ds.Sound → ds'.Sound
  entry : ∀ p ∈ ds'.entries, p ∈ ds.entries ∨ p.1 = nameOf uri
  known : ∀ p ∈ ds'.entries, p.2.uri = uri ∨ ∃ q ∈ ds.entries, q.2.uri = p.2.uri

theorem Touches.refl (uri : String) (ds : Documents) : Touches uri ds ds :=
  ⟨fun h => h, fun _ hp => .inl hp, fun p hp => .inr ⟨p, hp, rfl⟩⟩

theorem Touches.trans {uri : String} (h : Touches uri ds ds') (h' : Touches uri ds' ds'') :
    Touches uri ds ds'' where
  sound hs := h'.sound (h.sound hs)
  entry p hp := by
    obtain hp | hp := h'.entry p hp
    · exact h.entry p hp
    · exact .inr hp
  known p hp := by
    obtain hu | ⟨q, hq, hu⟩ := h'.known p hp
    · exact .inl hu
    · rw [← hu]
      exact h.known q hq

theorem touches_put (ds : Documents) (d : Document)
    (hstable : nameOf (nameOf d.uri) = nameOf d.uri) : Touches d.uri ds (ds.put d) where
  sound h := by
    have hmem : ∀ p ∈ (ds.put d).entries, p = (nameOf d.uri, d) ∨ p ∈ ds.entries :=
      fun p hp => mem_putEntry hp
    refine ⟨?_, fun p hp => ?_, fun p hp => ?_⟩
    · rw [put, names_putEntry]
      split
      · exact h.names
      · rename_i hnew
        refine List.nodup_append.mpr ⟨h.names, by simp, fun a ha b hb => ?_⟩
        obtain rfl := List.mem_singleton.mp hb
        exact fun hab => hnew (hab ▸ ha)
    · obtain rfl | hp := hmem p hp
      · rfl
      · exact h.named p hp
    · obtain rfl | hp := hmem p hp
      · exact hstable
      · exact h.stable p hp
  entry p hp := by
    obtain rfl | hp := mem_putEntry hp
    · exact .inr rfl
    · exact .inl hp
  known p hp := by
    obtain rfl | hp := mem_putEntry hp
    · exact .inl rfl
    · exact .inr ⟨p, hp, rfl⟩

theorem touches_change {uri text : String} {version : Json}
    (hc : ds.change uri text version = .ok ds') : Touches uri ds ds' := by
  unfold change at hc
  split at hc
  · obtain rfl := Except.ok.inj hc
    have hmem : ∀ p ∈ ds.entries.map (fun p => if p.1 == nameOf uri then
        (p.1, { p.2 with text := text, version := version }) else p),
        ∃ q ∈ ds.entries, p.1 = q.1 ∧ p.2.uri = q.2.uri ∧ (p = q ∨ p.1 = nameOf uri) := by
      intro p hp
      obtain ⟨q, hq, rfl⟩ := List.mem_map.mp hp
      split
      · rename_i hname
        exact ⟨q, hq, rfl, rfl, .inr (by simpa using hname)⟩
      · exact ⟨q, hq, rfl, rfl, .inl rfl⟩
    refine ⟨fun h => ⟨?_, fun p hp => ?_, fun p hp => ?_⟩, fun p hp => ?_, fun p hp => ?_⟩
    · have hnames : (ds.entries.map (fun p => if p.1 == nameOf uri then
          (p.1, { p.2 with text := text, version := version }) else p)).map Prod.fst =
          ds.entries.map Prod.fst := by
        rw [List.map_map]
        refine List.map_congr_left fun p _ => ?_
        simp only [Function.comp_apply]
        split <;> rfl
      rw [hnames]
      exact h.names
    · obtain ⟨q, hq, hname, huri, -⟩ := hmem p hp
      rw [hname, huri]
      exact h.named q hq
    · obtain ⟨q, hq, hname, -, -⟩ := hmem p hp
      rw [hname]
      exact h.stable q hq
    · obtain ⟨q, hq, -, -, rfl | hname⟩ := hmem p hp
      · exact .inl hq
      · exact .inr hname
    · obtain ⟨q, hq, -, huri, -⟩ := hmem p hp
      exact .inr ⟨q, hq, huri.symm⟩
  · simp at hc

/-- New texts one after another touch one document. -/
theorem touches_changes {uri : String} {version : Json} {texts : List String}
    (hc : texts.foldlM (fun ds text => ds.change uri text version) ds = .ok ds') :
    Touches uri ds ds' := by
  induction texts generalizing ds with
  | nil =>
    obtain rfl := Except.ok.inj hc
    exact .refl uri ds
  | cons text texts ih =>
    rw [List.foldlM_cons] at hc
    cases hone : ds.change uri text version with
    | error e => simp [hone, bind, Except.bind] at hc
    | ok mid =>
      rw [hone] at hc
      exact (touches_change hone).trans (ih hc)

theorem mem_close {uri : String} {p : String × Document} (hp : p ∈ (ds.close uri).entries) :
    p ∈ ds.entries ∧ p.1 ≠ nameOf uri := by
  obtain ⟨hp, hne⟩ := List.mem_filter.mp hp
  exact ⟨hp, by simpa using hne⟩

theorem Sound.close (h : ds.Sound) (uri : String) : (ds.close uri).Sound where
  names := h.names.sublist (List.filter_sublist.map Prod.fst)
  named p hp := h.named p (mem_close hp).1
  stable p hp := h.stable p (mem_close hp).1

/-! ### What is found -/

theorem lookup_putEntry (name : String) (d : Document) (es : List (String × Document))
    (n : String) :
    (putEntry name d es).lookup n = if n = name then some d else es.lookup n := by
  induction es with
  | nil => simp [putEntry, Table.lookup_cons]
  | cons e es ih =>
    unfold putEntry
    by_cases he : e.1 = name
    · by_cases hn : n = name <;> simp [Table.lookup_cons, he, hn]
    · by_cases hn : n = e.1 <;> simp [Table.lookup_cons, he, hn, ih]

theorem get?_put_self (ds : Documents) (d : Document) : (ds.put d).get? d.uri = some d := by
  rw [get?, put, lookup_putEntry, if_pos rfl]

theorem get?_put_of_ne (ds : Documents) {d : Document} {uri : String}
    (h : nameOf uri ≠ nameOf d.uri) : (ds.put d).get? uri = ds.get? uri := by
  rw [get?, put, lookup_putEntry, if_neg h, get?]

theorem get?_close_of_ne (ds : Documents) {uri uri' : String} (h : nameOf uri' ≠ nameOf uri) :
    (ds.close uri).get? uri' = ds.get? uri' :=
  Table.lookup_drop_of_ne _ h

/-- Only the document of one name is given a new text. -/
theorem get?_of_change {uri text : String} {version : Json}
    (hc : ds.change uri text version = .ok ds') (u : String) :
    ds'.get? u = if nameOf u = nameOf uri then
        (ds.get? u).map fun d => { d with text := text, version := version }
      else ds.get? u := by
  unfold change at hc
  split at hc
  · rw [← Except.ok.inj hc, get?, Table.lookup_map ds.entries (nameOf uri)
      (fun d => { d with text := text, version := version })]
    simp only [beq_iff_eq]
    rfl
  · simp at hc

theorem change_of_get? {uri : String} {d : Document} (hd : ds.get? uri = some d) (text : String)
    (version : Json) : ∃ ds', ds.change uri text version = .ok ds' := by
  rw [change, hd]
  exact ⟨_, rfl⟩

/-- An open document can be given new texts, of which it keeps the last one. -/
theorem changes_of_get? {uri : String} {d : Document} (hd : ds.get? uri = some d)
    (version : Json) (texts : List String) :
    ∃ ds', texts.foldlM (fun ds text => ds.change uri text version) ds = .ok ds' ∧
      (∃ d', ds'.get? uri = some d' ∧ d'.uri = d.uri ∧ d'.text = texts.getLastD d.text) ∧
      ∀ u, nameOf u ≠ nameOf uri → ds'.get? u = ds.get? u := by
  induction texts generalizing ds d with
  | nil => exact ⟨ds, rfl, ⟨d, hd, rfl, rfl⟩, fun _ _ => rfl⟩
  | cons text texts ih =>
    obtain ⟨mid, hmid⟩ := change_of_get? hd text version
    have hget := get?_of_change hmid
    have hself : mid.get? uri = some { d with text := text, version := version } := by
      rw [hget, if_pos rfl, hd]
      rfl
    obtain ⟨ds', hds, ⟨d', hd', huri, htext⟩, hother⟩ := ih hself
    refine ⟨ds', ?_, ⟨d', hd', huri, ?_⟩, fun u hu => ?_⟩
    · rw [List.foldlM_cons, hmid]
      exact hds
    · rw [htext]
      cases texts <;> rfl
    · rw [hother u hu, hget, if_neg hu]

/-- Only an open document can be given a new text. -/
theorem get?_of_changes {uri text : String} {version : Json} {texts : List String}
    (hc : (text :: texts).foldlM (fun ds text => ds.change uri text version) ds = .ok ds') :
    ∃ d, ds.get? uri = some d := by
  rw [List.foldlM_cons] at hc
  cases hone : ds.change uri text version with
  | error e => simp [hone, bind, Except.bind] at hc
  | ok mid =>
    unfold change at hone
    split at hone
    · exact Option.isSome_iff_exists.mp ‹_›
    · simp at hone

/-- A file has a path on the disk. -/
theorem diskPath_of_file {uri : String} {path : Path} (h : Uri.toPath? uri = .ok (some path)) :
    ∃ value, diskPath uri = .ok value := by
  unfold diskPath
  unfold Uri.toPath? at h
  cases hs : Uri.split uri with
  | error flaw => simp [hs] at h
  | ok parts => exact ⟨_, rfl⟩

end LintBridge.Documents
