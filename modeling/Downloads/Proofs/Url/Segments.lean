import Downloads.Proofs.Text.Reading
import Downloads.Proofs.Url.Encoding

/-!
# Segments of paths

What the segments of a URL are made of, whatever the rule for the names of hosts is. The path stands
at the end of the text, before a query or a fragment, and slashes divide it into pieces. Reading it
adds one segment after the other: each is the spelling of one piece, and only dots and drives are
treated otherwise (`written_of_mem_addSegment`). So every segment of a URL is written for a piece of
its text (`written_of_parse`), and it holds visible characters without slashes (`Written.visible`).
-/

namespace Downloads.Url

/-! ## Pieces and segments -/

/-- How a segment is made of a piece of the text. -/
inductive SegmentOf (kind : SchemeKind) (piece : List Char) : List Char → Prop
  /-- The piece is spelled as it must be in a path. -/
  | spelled : SegmentOf kind piece (spell piece)
  /-- The piece names a drive, and a colon takes the place of its bar. -/
  | drive {letter : Char} (hkind : kind = .file) (hletter : letter.isAlpha = true)
      (hpiece : piece = [letter, '|']) : SegmentOf kind piece [letter, ':']

/-- The spellings of one and of two dots. -/
def dotSegments : List (List Char) :=
  [".".toList, "%2e".toList, "%2E".toList, "..".toList, ".%2e".toList, ".%2E".toList,
    "%2e.".toList, "%2E.".toList, "%2e%2e".toList, "%2e%2E".toList, "%2E%2e".toList,
    "%2E%2E".toList]

theorem plainDots_of_mem_dotSegments {s : List Char} (h : s ∈ dotSegments) :
    plainDots s = ['.', '.'] ∨ plainDots s = ['.'] := by
  have key : ∀ s ∈ dotSegments, plainDots s = ['.', '.'] ∨ plainDots s = ['.'] := by decide
  exact key s h

/-- The character stands inside a piece of a path. -/
def InPiece (kind : SchemeKind) (c : Char) : Prop := isSlash kind c = false ∧ endsPath c = false

/-- The segment is written for a piece of the text, and in all but file paths it is no dots. -/
structure Written (kind : SchemeKind) (text segment : List Char) : Prop where
  piece : ∃ piece, piece <:+: text ∧ (∀ c ∈ piece, InPiece kind c) ∧ SegmentOf kind piece segment
  undotted : kind ≠ .file → segment ∉ dotSegments

variable {kind : SchemeKind} {text segment : List Char}

theorem Written.nil (kind : SchemeKind) (text : List Char) : Written kind text [] :=
  ⟨⟨[], List.nil_infix, nofun, .spelled⟩, fun _ => by decide⟩

theorem Written.mono {text' : List Char} (h : Written kind text segment) (htext : text <:+: text') :
    Written kind text' segment := by
  obtain ⟨piece, hpiece, hinside, hsegment⟩ := h.piece
  exact ⟨⟨piece, hpiece.trans htext, hinside, hsegment⟩, h.undotted⟩

/-- Segments hold visible characters, and no slashes. -/
theorem Written.visible (h : Written kind text segment) {c : Char} (hc : c ∈ segment) :
    PathChar c ∧ c ≠ '/' := by
  obtain ⟨piece, -, hinside, hsegment⟩ := h.piece
  cases hsegment with
  | spelled =>
    obtain ⟨hpath, hslash⟩ := pathChar_of_mem_spell hc
    refine ⟨hpath, fun heq => ?_⟩
    cases (hinside '/' (hslash heq)).1
  | drive _ hletter _ =>
    rcases List.mem_pair.mp hc with rfl | rfl
    · exact pathChar_of_isAlpha hletter
    · decide

/-! ## Reading a path -/

theorem mem_of_mem_shorten {done : List (List Char)} (h : segment ∈ shorten done) :
    segment ∈ done := by
  unfold shorten at h
  split at h
  · exact h
  · split at h
    · exact h
    · exact List.dropLast_subset done h

/-- At the start of a file path, a piece is spelled, or its drive is written with a colon. -/
theorem segmentOf_normalDrive (piece : List Char) :
    SegmentOf .file piece (normalDrive (spell piece)) := by
  unfold normalDrive
  split
  · rename_i c hspell
    split
    · rename_i halpha
      have hletter : c ≠ '%' := by
        rintro rfl
        cases halpha
      -- No letter and no bar is encoded, so the piece is a letter and a bar itself.
      obtain ⟨rest, rfl, hbar⟩ := spell_eq_cons hspell hletter
      obtain ⟨rest, rfl, hend⟩ := spell_eq_cons hbar (by decide)
      obtain rfl := spell_eq_nil hend
      exact .drive rfl halpha rfl
    · rw [← hspell]
      exact .spelled
  · exact .spelled

/-- One more segment is written for its own piece. -/
theorem written_of_mem_addSegment {done : List (List Char)} {raw : List Char} {isLast : Bool}
    (hinside : ∀ c ∈ raw, InPiece kind c) (h : segment ∈ addSegment kind done raw isLast) :
    segment ∈ done ∨ Written kind raw segment := by
  have hclose : ∀ {path : List (List Char)},
      (segment ∈ if isLast = true then path ++ [[]] else path) →
        segment ∈ path ∨ Written kind raw segment := by
    intro path hpath
    split at hpath
    · rcases List.mem_append.mp hpath with hpath | hpath
      · exact .inl hpath
      · rw [List.mem_singleton.mp hpath]
        exact .inr (.nil kind raw)
    · exact .inl hpath
  simp only [addSegment, encodeSegment_eq_spell] at h
  split at h
  · exact (hclose h).imp_left mem_of_mem_shorten
  rename_i hparent
  split at h
  · exact hclose h
  rename_i hself
  rcases List.mem_append.mp h with h | h
  · exact .inl h
  rw [List.mem_singleton.mp h]
  right
  split
  · rename_i hfirst
    obtain ⟨rfl, -⟩ := hfirst
    exact ⟨⟨raw, List.infix_refl raw, hinside, segmentOf_normalDrive raw⟩, absurd rfl⟩
  · refine ⟨⟨raw, List.infix_refl raw, hinside, .spelled⟩, fun _ hdots => ?_⟩
    exact (plainDots_of_mem_dotSegments hdots).elim hparent hself

/-- The segments of a path are those that stood there, and what the pieces of the rest add. -/
theorem written_of_mem_addSegments {done parts : List (List Char)}
    (hinside : ∀ raw ∈ parts, ∀ c ∈ raw, InPiece kind c)
    (h : segment ∈ addSegments kind done parts) :
    segment ∈ done ∨ ∃ raw ∈ parts, Written kind raw segment := by
  fun_induction addSegments kind done parts with
  | case1 done => exact .inl h
  | case2 done raw =>
    exact (written_of_mem_addSegment (hinside raw List.mem_cons_self) h).imp_right
      fun hraw => ⟨raw, List.mem_cons_self, hraw⟩
  | case3 done raw rest hrest ih =>
    rcases ih (fun raw' hraw' => hinside raw' (List.mem_cons_of_mem _ hraw')) h with h | h
    · exact (written_of_mem_addSegment (hinside raw List.mem_cons_self) h).imp_right
        fun hraw => ⟨raw, List.mem_cons_self, hraw⟩
    · obtain ⟨raw', hraw', hwritten⟩ := h
      exact .inr ⟨raw', List.mem_cons_of_mem _ hraw', hwritten⟩

/-- Every segment of a path that is read of a text is written for a piece of the text. -/
theorem written_of_mem_readPath {s : List Char} (h : segment ∈ readPath kind s) :
    Written kind s segment := by
  have hinside : ∀ raw ∈ Text.splitAt (isSlash kind) (s.takeWhile fun c => !endsPath c),
      ∀ c ∈ raw, InPiece kind c := by
    intro raw hraw c hc
    have hpath : c ∈ s.takeWhile fun c => !endsPath c := (Text.infix_of_mem_splitAt hraw).mem hc
    exact ⟨Text.not_mem_of_mem_splitAt hraw hc, by simpa using List.mem_takeWhile_imp hpath⟩
  rcases written_of_mem_addSegments hinside h with h | ⟨raw, hraw, hwritten⟩
  · exact absurd h List.not_mem_nil
  · exact hwritten.mono
      ((Text.infix_of_mem_splitAt hraw).trans (List.takeWhile_prefix _).isInfix)

theorem written_of_mem_trimLeading {segments : List (List Char)}
    (h : ∀ t ∈ segments, Written kind text t) (hmem : segment ∈ trimLeading segments) :
    Written kind text segment := by
  unfold trimLeading at hmem
  split at hmem
  · rw [List.mem_singleton.mp hmem]
    exact .nil kind text
  · exact h segment ((List.dropWhile_sublist List.isEmpty).mem hmem)

/-! ## Where the path stands -/

theorem suffix_of_splitScheme? {s scheme rest : List Char}
    (h : splitScheme? s = some (scheme, rest)) : rest <:+ s := by
  unfold splitScheme? at h
  split at h
  · cases h
  rename_i c cs
  split at h
  · split at h
    · rename_i hdrop
      cases h
      exact (List.suffix_cons ':' rest).trans (hdrop ▸ List.dropWhile_suffix isSchemeChar)
    · cases h
  · cases h

/-- The address is what follows the user, or the whole authority without one. -/
theorem suffix_of_splitUserinfo {authority user address : List Char}
    (h : (splitUserinfo authority).getD ([], authority) = (user, address)) :
    address <:+ authority := by
  rcases huser : splitUserinfo authority with _ | ⟨user', address'⟩
  · rw [huser] at h
    cases h
    exact List.suffix_rfl
  · rw [huser] at h
    cases h
    obtain ⟨⟨after, before⟩, hsplit, hparts⟩ := Option.map_eq_some_iff.mp huser
    cases hparts
    obtain ⟨hauthority, -⟩ := Text.splitOnce_eq_some_iff.mp hsplit
    rw [← List.reverse_prefix, List.reverse_reverse, hauthority]
    exact List.prefix_append after ('@' :: before)

theorem splitHost_suffix (s : List Char) (inBrackets : Bool) :
    (splitHost s inBrackets).2 <:+ s := by
  fun_induction splitHost s inBrackets with
  | case1 => exact List.suffix_rfl
  | case2 => exact List.suffix_rfl
  | case3 inBrackets c cs _ host rest hsplit ih =>
    rw [hsplit] at ih
    exact ih.trans (List.suffix_cons c cs)

theorem suffix_of_readPort {s left : List Char} (h : readPort s = .ok left) : left <:+ s := by
  unfold readPort at h
  split at h
  · rename_i port
    simp only at h
    split at h
    · cases h
      exact (List.dropWhile_suffix _).trans (List.suffix_cons ':' port)
    · cases h
  · cases h
    exact List.suffix_rfl

theorem dropSlash_suffix (kind : SchemeKind) (s : List Char) : dropSlash kind s <:+ s := by
  unfold dropSlash
  split
  · exact List.suffix_rfl
  · split
    · exact List.suffix_cons _ _
    · exact List.suffix_rfl

theorem ok_of_bind {ε α β : Type} {x : Except ε α} {f : α → Except ε β} {b : β}
    (h : x >>= f = .ok b) : ∃ a, x = .ok a ∧ f a = .ok b := by
  rcases x with e | a
  · cases h
  · exact ⟨a, rfl, h⟩

/-- A check that throws was passed. -/
theorem ok_of_check {ε β : Type} {p : Prop} [Decidable p] {e : ε} {f : Unit → Except ε β} {b : β}
    (h : (if p then throw e >>= f else f ()) = .ok b) : f () = .ok b := by
  split at h
  · cases h
  · exact h

section

variable [HostNames]

/-- The path of an authority is what its port leaves, and all that follows. -/
theorem suffix_of_readAuthority {s path : List Char} (h : readAuthority kind s = .ok path) :
    path <:+ s := by
  unfold readAuthority at h
  rcases hauthority : splitAuthority kind s with ⟨authority, rest⟩
  have hs : authority ++ rest = s := by
    cases hauthority
    exact List.takeWhile_append_dropWhile
  rw [hauthority] at h
  rcases haddress : (splitUserinfo authority).getD ([], authority) with ⟨user, address⟩
  simp only [haddress] at h
  have hsuffix := splitHost_suffix address false
  rcases hhost : splitHost address false with ⟨host, port⟩
  rw [hhost] at hsuffix
  replace h := ok_of_check h
  simp only [hhost] at h
  have hport : ∃ left, readPort port = .ok left ∧ path = left ++ rest := by
    -- The host is checked by the rules of its scheme; the port is read under both.
    split at h
    case' isTrue =>
      obtain ⟨-, -, h⟩ := ok_of_bind h
      replace h := ok_of_check h
    case' isFalse =>
      obtain ⟨-, -, h⟩ := ok_of_bind (ok_of_check h)
    all_goals
      obtain ⟨left, hleft, h⟩ := ok_of_bind h
      cases ok_of_check h
      exact ⟨left, hleft, rfl⟩
  obtain ⟨left, hleft, rfl⟩ := hport
  obtain ⟨before, hbefore⟩ :=
    ((suffix_of_readPort hleft).trans hsuffix).trans (suffix_of_splitUserinfo haddress)
  exact ⟨before, by rw [← List.append_assoc, hbefore, hs]⟩

/-- A file path is what follows the slashes, or the host after them, or no slashes. -/
theorem suffix_of_readFile {s path : List Char} (h : readFile s = .ok path) : path <:+ s := by
  unfold readFile at h
  split at h
  · rename_i a b afterSlashes
    have hslashes : afterSlashes <:+ a :: b :: afterSlashes :=
      (List.suffix_cons b afterSlashes).trans (List.suffix_cons a (b :: afterSlashes))
    split at h
    · rcases hauthority : splitAuthority .file afterSlashes with ⟨host, rest⟩
      have hrest : dropSlash .file rest <:+ afterSlashes := by
        cases hauthority
        exact (dropSlash_suffix .file _).trans (List.dropWhile_suffix _)
      simp only [hauthority] at h
      split at h
      · cases h
        exact hslashes
      split at h
      · cases h
        exact hrest.trans hslashes
      · rcases hcheck : checkHost host with e | _ <;> rw [hcheck] at h <;> cases h
        exact hrest.trans hslashes
    · cases h
      exact dropSlash_suffix .file _
  · cases h
    exact dropSlash_suffix .file s

theorem suffix_of_readSpecial {s path : List Char} (h : readSpecial s = .ok path) : path <:+ s := by
  obtain ⟨rest, hrest, h⟩ := ok_of_bind h
  cases h
  exact ((dropSlash_suffix .special rest).trans (suffix_of_readAuthority hrest)).trans
    (List.dropWhile_suffix _)

theorem suffix_of_readPlain {s path : List Char} (h : readPlain s = .ok (some path)) :
    path <:+ s := by
  unfold readPlain at h
  split at h
  · rename_i s
    obtain ⟨rest, hrest, h⟩ := ok_of_bind h
    split at h
    · cases h
    split at h <;> cases h
    exact ((dropSlash_suffix .plain _).trans (suffix_of_readAuthority hrest)).trans
      ((List.suffix_cons '/' s).trans (List.suffix_cons '/' ('/' :: s)))
  · cases h
    exact List.suffix_cons '/' _
  · cases h

/-! ## Whole texts -/

/-- **Every segment of a path is written for a piece of the text between its slashes.** -/
theorem written_of_parse {s : String} {u : Url} {segments : List (List Char)}
    (h : parse s = .ok u) (hsegments : u.segments? = some segments) (hmem : segment ∈ segments) :
    Written (.of u.scheme) (significant s.toList) segment := by
  unfold parse at h
  split at h
  · cases h
  rename_i scheme rest hscheme
  have hread : ∀ {path t : List Char}, path <:+ rest → t ∈ readPath (.of scheme) path →
      Written (.of scheme) (significant s.toList) t := fun hpath ht =>
    (written_of_mem_readPath ht).mono (hpath.trans (suffix_of_splitScheme? hscheme)).isInfix
  split at h
  all_goals
    rename_i hkind
    rw [hkind] at hread
    obtain ⟨path, hpath, h⟩ := ok_of_bind h
    cases h
    rw [hkind]
  · cases hsegments
    exact written_of_mem_trimLeading (fun t => hread (suffix_of_readFile hpath)) hmem
  · cases hsegments
    exact hread (suffix_of_readSpecial hpath) hmem
  · obtain ⟨rest, rfl, rfl⟩ := Option.map_eq_some_iff.mp hsegments
    exact hread (suffix_of_readPlain hpath) hmem

end

/-! ## The last segment -/

/-- The segment is not empty, and those after it are. -/
structure EndsIn (u : Url) (segment : List Char) : Prop where
  nonempty : segment ≠ []
  last : ∃ before after, u.segments? = some (before ++ segment :: after) ∧ ∀ s ∈ after, s = []

/-- The last segment is the first that is found from the end. -/
theorem getLast?_filter_eq_some {segments : List (List Char)}
    (h : (segments.filter fun s => !s.isEmpty).getLast? = some segment) :
    segment ≠ [] ∧ ∃ before after, segments = before ++ segment :: after ∧ ∀ s ∈ after, s = [] := by
  rw [List.getLast?_eq_head?_reverse, ← List.filter_reverse, List.head?_filter,
    List.find?_eq_some_iff_append] at h
  obtain ⟨hne, after, before, hreverse, hafter⟩ := h
  refine ⟨by simpa using hne, before.reverse, after.reverse, ?_, fun s hs => ?_⟩
  · rw [← List.reverse_reverse segments, hreverse]
    simp
  · simpa using hafter s (List.mem_reverse.mp hs)

theorem endsIn_of_lastSegment? {u : Url} (h : u.lastSegment? = some segment) :
    u.EndsIn segment := by
  obtain ⟨segments, hsegments, hlast⟩ := Option.bind_eq_some_iff.mp h
  obtain ⟨hne, before, after, rfl, hafter⟩ := getLast?_filter_eq_some hlast
  exact ⟨hne, before, after, hsegments, hafter⟩

/-- A URL has no last segment if it has no path, or a path of empty segments. -/
theorem lastSegment?_eq_none_iff {u : Url} :
    u.lastSegment? = none ↔ ∀ segments, u.segments? = some segments → ∀ s ∈ segments, s = [] := by
  rw [lastSegment?]
  rcases u.segments? with _ | segments
  · exact ⟨fun _ => nofun, fun _ => rfl⟩
  · rw [Option.bind_some, List.getLast?_eq_none_iff, List.filter_eq_nil_iff]
    simp

end Downloads.Url
