import Downloads.Documents.Node
import Downloads.Proofs.Url.Segments

/-!
# Names of documents

A document is named by the title of its download, else by the last part of the source, else by the
id. Titles are cut to what stands between their blanks, segments of a path are spelled in visible
characters, and the third name always exists. So every document has a name that clients can use,
whatever its title and its source are (`Record.has_usable_name`).
-/

namespace Downloads

namespace Url

variable [HostNames] {text : String}

/-- The text gives no name. -/
inductive Nameless (text : String) : Prop
  /-- It is no URL. -/
  | noUrl {e : UrlError} (h : parse text = .error e)
  /-- Its path has no leading slash, or there is none. -/
  | noPath {u : Url} (h : parse text = .ok u) (hpath : u.segments? = none)
  /-- Slashes are all that its path holds. -/
  | emptyPath {u : Url} {segments : List (List Char)} (h : parse text = .ok u)
      (hpath : u.segments? = some segments) (hempty : ∀ s ∈ segments, s = [])

/-- The name is the last segment of the path that is not empty, as it is spelled there for a piece
of the text. -/
structure Names (text name : String) : Prop where
  segment : ∃ u, parse text = .ok u ∧ u.EndsIn name.toList ∧
    Written (.of u.scheme) (significant text.toList) name.toList
  visible : ∀ c ∈ name.toList, 0x20 < c.toNat ∧ c.toNat < 0x7F

end Url

namespace Record

variable {r : Record} {name : String}

/-- The record has no title, or one of blanks. -/
def Untitled (r : Record) : Prop := ∀ title, r.displayTitle = some title → Text.trim title = ""

/-! ## The three sources of a name -/

theorem shownTitle?_eq_some {title : String} (htitle : r.displayTitle = some title)
    (h : Text.trim title ≠ "") : r.shownTitle? = some (Text.trim title) := by
  simp [shownTitle?, htitle, h]

theorem shownTitle?_eq_none (h : r.Untitled) : r.shownTitle? = none := by
  rcases htitle : r.displayTitle with _ | title
  · simp [shownTitle?, htitle]
  · simp [shownTitle?, htitle, h title htitle]

/-- A title that is shown is more than blanks, and has none at its ends. -/
theorem trim_of_shownTitle? (h : r.shownTitle? = some name) :
    name ≠ "" ∧ Text.trim name = name := by
  obtain ⟨hmap, hne⟩ := Option.filter_eq_some_iff.mp h
  obtain ⟨title, -, rfl⟩ := Option.map_eq_some_iff.mp hmap
  exact ⟨by simpa using hne, Text.trim_trim title⟩

theorem visible_of_mem_fallbackName {c : Char} (h : c ∈ r.fallbackName.toList) :
    0x20 < c.toNat ∧ c.toNat < 0x7F ∧ c ≠ '/' := by
  have hprefix : ∀ c ∈ "download-".toList, 0x20 < c.toNat ∧ c.toNat < 0x7F ∧ c ≠ '/' := by
    simp
  have hsigns : ∀ c, c = '+' ∨ c = '-' → 0x20 < c.toNat ∧ c.toNat < 0x7F ∧ c ≠ '/' := by
    rintro c (rfl | rfl) <;> decide
  rw [fallbackName, String.toList_append, List.mem_append] at h
  rcases h with h | h
  · exact hprefix c h
  rw [Text.decimal, String.toList_ofList] at h
  rcases (Text.denotes_decimalChars r.id).mem h with hdigit | hsign
  · have hrange := Text.toNat_of_isDigit hdigit
    refine ⟨by omega, by omega, ?_⟩
    rintro rfl
    cases hdigit
  · exact hsigns c hsign

/-- A name of visible characters without slashes. -/
theorem plain_of_visible (h : ∀ c ∈ name.toList, 0x20 < c.toNat ∧ c.toNat < 0x7F ∧ c ≠ '/') :
    Text.trim name = name ∧ '/' ∉ name.toList :=
  ⟨Text.trim_of_not_blank fun c hc => Text.isBlank_of_visible (h c hc).1 (h c hc).2.1,
    fun hslash => (h '/' hslash).2.2 rfl⟩

theorem fallbackName_ne_empty : r.fallbackName ≠ "" := by
  intro hempty
  have hfirst : 'd' ∈ r.fallbackName.toList := by
    rw [fallbackName, String.toList_append]
    exact List.mem_append_left _ (by decide)
  rw [hempty] at hfirst
  cases hfirst

section

variable [Url.HostNames]

theorem nameless_of_sourceName? (h : r.sourceName? = none) :
    Url.Nameless r.sourceUri := by
  unfold sourceName? at h
  split at h
  · rename_i herror
    exact .noUrl herror
  · rename_i u hu
    have hempty := Url.lastSegment?_eq_none_iff.mp (Option.map_eq_none_iff.mp h)
    rcases hpath : u.segments? with _ | segments
    · exact .noPath hu hpath
    · exact .emptyPath hu hpath (hempty segments hpath)

theorem names_of_sourceName? (h : r.sourceName? = some name) :
    Url.Names r.sourceUri name := by
  unfold sourceName? at h
  split at h
  · cases h
  rename_i u hu
  obtain ⟨segment, hsegment, rfl⟩ := Option.map_eq_some_iff.mp h
  have hends := Url.endsIn_of_lastSegment? hsegment
  obtain ⟨before, after, hpath, -⟩ := hends.last
  have hwritten := Url.written_of_parse hu hpath
    (List.mem_append_right before List.mem_cons_self)
  rw [← String.toList_ofList (l := segment)] at hends hwritten
  exact ⟨⟨u, hu, hends, hwritten⟩, fun c hc =>
    have hvisible := (hwritten.visible hc).1
    ⟨hvisible.1, hvisible.2.1⟩⟩

/-- A text with a name is not without one. -/
theorem not_nameless_of_names (h : Url.Names r.sourceUri name) :
    ¬Url.Nameless r.sourceUri := by
  obtain ⟨u, hu, hends, -⟩ := h.segment
  obtain ⟨before, after, hpath, -⟩ := hends.last
  rintro (he | ⟨hu', hpath'⟩ | ⟨hu', hpath', hempty⟩)
  · cases hu.symm.trans he
  · cases hu.symm.trans hu'
    cases hpath.symm.trans hpath'
  · cases hu.symm.trans hu'
    cases hpath.symm.trans hpath'
    exact hends.nonempty (hempty _ (List.mem_append_right before List.mem_cons_self))

/-! ## The name -/

/-- What the name of a download promises to clients. -/
structure HasName (r : Record) (name : String) : Prop where
  nonempty : name ≠ ""
  trimmed : Text.trim name = name
  ofTitle : ∀ title, r.displayTitle = some title → Text.trim title ≠ "" → name = Text.trim title
  undivided : r.Untitled → '/' ∉ name.toList
  ofSource : r.Untitled → ¬Url.Nameless r.sourceUri → Url.Names r.sourceUri name
  ofId : r.Untitled → Url.Nameless r.sourceUri → name = "download-" ++ Text.decimal r.id

theorem hasName_of_shownTitle? (h : r.shownTitle? = some name) : HasName r name := by
  obtain ⟨hne, htrim⟩ := trim_of_shownTitle? h
  have htitled : ¬r.Untitled := by
    intro huntitled
    cases h.symm.trans (shownTitle?_eq_none huntitled)
  refine ⟨hne, htrim, fun title htitle hblank => ?_, fun h => absurd h htitled,
    fun h => absurd h htitled, fun h => absurd h htitled⟩
  exact Option.some.inj (h.symm.trans (shownTitle?_eq_some htitle hblank))

theorem hasName_of_sourceName? (htitle : r.shownTitle? = none)
    (h : r.sourceName? = some name) : HasName r name := by
  have hnames := names_of_sourceName? h
  obtain ⟨u, hu, hends, hwritten⟩ := hnames.segment
  obtain ⟨htrim, hslash⟩ := plain_of_visible fun c hc =>
    ⟨(hnames.visible c hc).1, (hnames.visible c hc).2, (hwritten.visible hc).2⟩
  exact {
    nonempty := fun hempty => hends.nonempty (by rw [hempty]; rfl)
    trimmed := htrim
    ofTitle := fun title ht hblank => by cases htitle.symm.trans (shownTitle?_eq_some ht hblank)
    undivided := fun _ => hslash
    ofSource := fun _ _ => hnames
    ofId := fun _ hnameless => absurd hnameless (not_nameless_of_names hnames) }

theorem hasName_fallbackName (htitle : r.shownTitle? = none) (h : r.sourceName? = none) :
    HasName r r.fallbackName := by
  obtain ⟨htrim, hslash⟩ := plain_of_visible fun c hc => visible_of_mem_fallbackName (r := r) hc
  exact {
    nonempty := fallbackName_ne_empty
    trimmed := htrim
    ofTitle := fun title ht hblank => by cases htitle.symm.trans (shownTitle?_eq_some ht hblank)
    undivided := fun _ => hslash
    ofSource := fun _ hnamed => absurd (nameless_of_sourceName? h) hnamed
    ofId := fun _ _ => rfl }

/-- **Every document has a usable name.** Under any rule for the names of hosts, the name of a
download is not empty and has no blanks at its ends. It is the title without the blanks around it,
if more than blanks is left. Else it has no slash: it is the last segment of the source's path that
is not empty, in visible characters of ASCII that spell a piece of the source, and it is made of the
id exactly if the source is no URL, has no path that starts with a slash, or has empty segments
only. -/
theorem has_usable_name (r : Record) (labels : StatusLabels) :
    HasName r (r.toNode labels).displayName := by
  show HasName r r.displayName
  rw [displayName]
  rcases htitle : r.shownTitle? with _ | title
  · rcases hsource : r.sourceName? with _ | segment
    · exact hasName_fallbackName htitle hsource
    · exact hasName_of_sourceName? htitle hsource
  · exact hasName_of_shownTitle? htitle

end

/-- A download with a title of blanks. Dots and a backslash divide the path of its source, and its
last part is beyond ASCII. -/
def blankTitled : Record :=
  { new 7 " https://example.com/a/%2e%2E/b c\\é//?q/" with displayTitle := some "\u3000\t" }

/-- A download from a drive, which its source names with a bar. -/
def onDrive : Record := new 7 "file:///c|/docs/..\\?q"

theorem has_usable_name_blankTitled :
    blankTitled.Untitled ∧ ¬Url.Nameless blankTitled.sourceUri ∧
      (blankTitled.toNode {}).displayName = "%C3%A9" ∧
      Url.Names blankTitled.sourceUri "%C3%A9" ∧
      (onDrive.toNode {}).displayName = "c:" ∧ Url.Names onDrive.sourceUri "c:" := by
  have huntitled : blankTitled.Untitled := by
    intro title htitle
    cases htitle
    decide
  have hsource : blankTitled.sourceName? = some "%C3%A9" := by decide +kernel
  have hnamed := not_nameless_of_names (names_of_sourceName? hsource)
  have hname : (blankTitled.toNode {}).displayName = "%C3%A9" := by decide +kernel
  have husable := has_usable_name blankTitled {}
  have hdrive : onDrive.sourceName? = some "c:" := by decide +kernel
  have hdriveName : (onDrive.toNode {}).displayName = "c:" := by decide +kernel
  have husableDrive := has_usable_name onDrive {}
  rw [hname] at husable
  rw [hdriveName] at husableDrive
  exact ⟨huntitled, hnamed, hname, husable.ofSource huntitled hnamed, hdriveName,
    husableDrive.ofSource nofun (not_nameless_of_names (names_of_sourceName? hdrive))⟩

end Record

end Downloads
