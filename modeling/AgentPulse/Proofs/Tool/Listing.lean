import AgentPulse.Proofs.Text.Order
import AgentPulse.Tool.Builtin
import Mathlib.Data.List.Nodup
import Mathlib.Data.List.Perm.Basic

/-!
# Listings can be read back

A listing has one line for each entry, and the order that the entries are given in does not matter
to it (`listing_perm`). If the names are texts without slashes and line breaks, none of them empty
and none twice, then the lines ascend and each of them is read as its entry (`linesOf_listing`,
`entryOf_listedName`): the slash at the end of a folder's line is in no name, so the lines are as
different as the names are, and it can be taken off again.

Main statement: `listed_without_loss`.
-/

namespace AgentPulse.Tool

open Files (Tree Place)
open Text.Utf8 (encode lossy)

variable {entries entries' : List (Bytes × Bool)} {name : Bytes} {isFolder : Bool} {s : String}

/-! ## Lines and what they stand for -/

/-- The lines of a listing. An empty text has none. -/
def linesOf (text : String) : List String :=
  if text = "" then [] else (text.toList.splitOn '\n').map String.ofList

/-- The entry that a line stands for: a folder if there is a slash at its end. -/
def entryOf (line : String) : Bytes × Bool :=
  if line.toList.getLast? = some '/' then (encode (String.ofList line.toList.dropLast), true)
  else (encode line, false)

/-- A name that has a line to itself: a text that is not empty, without slashes and line breaks. -/
structure IsPlainName (name : Bytes) : Prop where
  isText : ∃ s, encode s = name
  ne_nil : name ≠ []
  noSlash : 0x2F ∉ name
  noBreak : 0x0A ∉ name

/-- Entries under different names that have a line each. -/
structure IsPlain (entries : List (Bytes × Bool)) : Prop where
  distinct : (entries.map (·.1)).Nodup
  plain : ∀ e ∈ entries, IsPlainName e.1

/-! ## Single names -/

theorem lossy_encode (s : String) : lossy (encode s) = s := by
  rw [lossy, Text.Utf8.decode_encode, List.map_map]
  show String.ofList (s.toList.map id) = s
  rw [List.map_id, String.ofList_toList]

theorem listedName_encode (s : String) (isFolder : Bool) :
    listedName (encode s) isFolder = s ++ if isFolder then "/" else "" := by
  rw [listedName, lossy_encode]

/-- A character of one byte is in a text only if its byte is in the bytes. -/
theorem mem_encode {c : Char} {b : UInt8} (hb : b ∈ String.utf8EncodeChar c) (h : c ∈ s.toList) :
    b ∈ encode s :=
  List.mem_flatMap.mpr ⟨c, h, hb⟩

theorem slash_not_mem (h : 0x2F ∉ encode s) : '/' ∉ s.toList :=
  fun hmem => h (mem_encode (by decide) hmem)

theorem break_not_mem (h : 0x0A ∉ encode s) : '\n' ∉ s.toList :=
  fun hmem => h (mem_encode (by decide) hmem)

theorem break_not_mem_listedName (h : IsPlainName name) :
    '\n' ∉ (listedName name isFolder).toList := by
  obtain ⟨s, rfl⟩ := h.isText
  have hs := break_not_mem h.noBreak
  rw [listedName_encode, String.toList_append, List.mem_append]
  cases isFolder <;> simpa using hs

theorem listedName_ne_empty (h : IsPlainName name) : listedName name isFolder ≠ "" := by
  obtain ⟨s, rfl⟩ := h.isText
  intro hempty
  rw [listedName_encode] at hempty
  have hs : s = "" := by
    have hlist := congrArg String.toList hempty
    rw [String.toList_append, String.toList_empty, List.append_eq_nil_iff] at hlist
    exact String.toList_eq_nil_iff.mp hlist.1
  exact h.ne_nil (hs ▸ rfl)

/-- Each line stands for its entry. -/
theorem entryOf_listedName (h : IsPlainName name) (isFolder : Bool) :
    entryOf (listedName name isFolder) = (name, isFolder) := by
  obtain ⟨s, rfl⟩ := h.isText
  rw [listedName_encode]
  cases isFolder with
  | true =>
    -- The slash is the last character, and what is left without it is the name.
    have hlist : (s ++ "/").toList = s.toList ++ ['/'] := String.toList_append
    rw [if_pos rfl, entryOf, hlist, List.getLast?_concat, if_pos rfl, List.dropLast_concat,
      String.ofList_toList]
  | false =>
    have hlast : s.toList.getLast? ≠ some '/' :=
      fun hlast => slash_not_mem h.noSlash (List.mem_of_getLast? hlast)
    rw [if_neg Bool.false_ne_true, String.append_empty, entryOf, if_neg hlast]

/-! ## Lines in order -/

theorem pairwise_ascending (texts : List String) : (ascending texts).Pairwise (· ≤ ·) := by
  have htrans : ∀ a b c : String, decide (a ≤ b) = true → decide (b ≤ c) = true →
      decide (a ≤ c) = true := by
    simp only [decide_eq_true_eq]
    exact fun a b c => String.le_trans
  have htotal : ∀ a b : String, (decide (a ≤ b) || decide (b ≤ a)) = true := by
    simp only [Bool.or_eq_true, decide_eq_true_eq]
    exact String.le_total
  exact (List.pairwise_mergeSort htrans htotal texts).imp of_decide_eq_true

theorem ascending_perm (texts : List String) : (ascending texts).Perm texts :=
  List.mergeSort_perm _ _

theorem ascending_eq_of_perm {texts texts' : List String} (h : texts.Perm texts') :
    ascending texts = ascending texts' := by
  refine List.Perm.eq_of_pairwise (fun a b _ _ => String.le_antisymm) (pairwise_ascending texts)
    (pairwise_ascending texts') ?_
  exact (ascending_perm texts).trans (h.trans (ascending_perm texts').symm)

/-- The order that entries are given in does not matter to their listing. -/
theorem listing_perm (h : entries.Perm entries') : listing entries = listing entries' := by
  rw [listing, listing, ascending_eq_of_perm (h.map _)]

/-! ## Whole listings -/

/-- The lines of entries, in order. -/
def sortedNames (entries : List (Bytes × Bool)) : List String :=
  ascending (entries.map fun e => listedName e.1 e.2)

theorem mem_sortedNames {line : String} : line ∈ sortedNames entries ↔
    ∃ e ∈ entries, listedName e.1 e.2 = line := by
  rw [sortedNames, (ascending_perm _).mem_iff, List.mem_map]

/-- A listing is split into the lines of its entries. -/
theorem linesOf_listing (h : IsPlain entries) :
    linesOf (listing entries) = sortedNames entries := by
  have hlisting : listing entries = String.intercalate "\n" (sortedNames entries) := rfl
  rw [hlisting]
  by_cases hnil : sortedNames entries = []
  · rw [hnil]
    rfl
  · have hbreak : ∀ line ∈ (sortedNames entries).map String.toList, '\n' ∉ line := by
      intro cs hcs
      obtain ⟨line, hline, rfl⟩ := List.mem_map.mp hcs
      obtain ⟨e, he, rfl⟩ := mem_sortedNames.mp hline
      exact break_not_mem_listedName (h.plain e he)
    have hsplit : (String.intercalate "\n" (sortedNames entries)).toList.splitOn '\n'
        = (sortedNames entries).map String.toList := by
      rw [String.toList_intercalate]
      exact List.splitOn_intercalate '\n' hbreak (fun hmap => hnil (List.map_eq_nil_iff.mp hmap))
    have hne : String.intercalate "\n" (sortedNames entries) ≠ "" := by
      intro hempty
      -- An empty text is split into one empty line, and no entry is listed by that.
      rw [hempty] at hsplit
      obtain ⟨line, hlines, hline⟩ := List.map_eq_singleton_iff.mp hsplit.symm
      have hmem : line ∈ sortedNames entries := hlines ▸ List.mem_singleton_self line
      obtain ⟨e, he, hname⟩ := mem_sortedNames.mp hmem
      exact listedName_ne_empty (h.plain e he) (hname.trans (String.toList_eq_nil_iff.mp hline))
    rw [linesOf, if_neg hne, hsplit, List.map_map]
    exact List.map_id'' (fun line => String.ofList_toList) _

/-- Read one by one, the lines are the entries. -/
theorem map_entryOf_linesOf (h : IsPlain entries) :
    ((linesOf (listing entries)).map entryOf).Perm entries := by
  have hread : (entries.map fun e => listedName e.1 e.2).map entryOf = entries := by
    rw [List.map_map]
    exact List.map_congr_left (fun e he => entryOf_listedName (h.plain e he) e.2)
      |>.trans (List.map_id entries)
  have hperm := (ascending_perm (entries.map fun e => listedName e.1 e.2)).map entryOf
  rw [hread] at hperm
  rw [linesOf_listing h]
  exact hperm

theorem IsPlain.nodup (h : IsPlain entries) : entries.Nodup := List.Nodup.of_map _ h.distinct

/-- No line comes before the one above it, or is the same. -/
theorem pairwise_linesOf (h : IsPlain entries) :
    (linesOf (listing entries)).Pairwise fun l l' => encode l < encode l' := by
  have hnodup : (sortedNames entries).Nodup := by
    have hread := (map_entryOf_linesOf h).nodup_iff.mpr h.nodup
    rw [linesOf_listing h] at hread
    exact List.Nodup.of_map entryOf hread
  rw [linesOf_listing h]
  refine ((pairwise_ascending _).and hnodup).imp fun {l l'} hlines => ?_
  obtain ⟨hle, hne⟩ := hlines
  rcases Std.lt_trichotomy (a := l) (b := l') with hlt | heq | hgt
  · exact Text.Utf8.encode_lt_encode.mpr hlt
  · exact absurd heq hne
  · exact absurd hgt hle

/-- A line is in the listing exactly if an entry is listed by it: by its name, with a slash behind
it if the entry is a folder. -/
theorem mem_linesOf (h : IsPlain entries) {line : String} : line ∈ linesOf (listing entries) ↔
    ∃ s isFolder, (encode s, isFolder) ∈ entries ∧
      line = s ++ if isFolder then "/" else "" := by
  rw [linesOf_listing h, mem_sortedNames]
  constructor
  · rintro ⟨⟨name, isFolder⟩, he, rfl⟩
    obtain ⟨s, rfl⟩ := (h.plain _ he).isText
    exact ⟨s, isFolder, he, listedName_encode s isFolder⟩
  · rintro ⟨s, isFolder, he, rfl⟩
    exact ⟨_, he, listedName_encode s isFolder⟩

/-- Listings are as different as the entries are. -/
theorem listing_eq_iff (h : IsPlain entries) (h' : IsPlain entries') :
    listing entries = listing entries' ↔ ∀ e, e ∈ entries ↔ e ∈ entries' := by
  constructor
  · intro heq e
    have hperm := (map_entryOf_linesOf h).symm
    rw [heq] at hperm
    exact (hperm.trans (map_entryOf_linesOf h')).mem_iff
  · intro hmem
    exact listing_perm ((List.perm_ext_iff_of_nodup h.nodup h'.nodup).mpr hmem)

/-! ## Folders -/

/-- What is in a folder: each name, and whether it is that of a folder. -/
def contents (t : Tree) (p : Place) : List (Bytes × Bool) :=
  (t.children p).map fun e => (e.1, e.2.isFolder)

/-- The arguments name a folder by a path that leads there. -/
def Leads (t : Tree) (here : Place) (args : Arguments) (p : Place) : Prop :=
  ∃ path, args.find? "path" = some (.text path) ∧ 0 ∉ encode path
    ∧ Files.folderAt t here (encode path) = .ok p

theorem invoke_listFolder {t : Tree} {here p : Place} {args : Arguments}
    (h : Leads t here args p) :
    Builtin.listFolder.invoke args t here = (.ok (listing (contents t p)), t, []) := by
  obtain ⟨path, hpath, hzero, hfolder⟩ := h
  have hbytes : pathBytes path = .ok (encode path) := by
    rw [pathBytes]
    exact if_neg (by simpa using hzero)
  have hrequired : args.required "path" = .ok path := by rw [Arguments.required, hpath]
  have hentries : Files.entriesOf t here (encode path) = .ok (t.children p) := by
    rw [Files.entriesOf, hfolder]
    rfl
  have hlist : listFolder t here path = .ok (listing (contents t p)) := by
    rw [listFolder, hbytes]
    show (Files.entriesOf t here (encode path)).mapError _ >>= _ = _
    rw [hentries]
    rfl
  rw [Builtin.invoke, Builtin.request, hrequired]
  show ((listFolder t here path).mapError _, t, []) = _
  rw [hlist]
  rfl

/-! ## All together -/

/-- Entries are listed alike in whichever order they are given. If their names are distinct, each of
them a text that is not empty and has no slash and no line break, then the lines of the listing
ascend strictly by their bytes; there is one line for each entry and none besides, namely its name,
with a slash behind it if it is a folder, and read one by one the lines are the entries. So two such
folders are listed alike exactly if the same entries are in them. This is what the tool answers for
a folder, in whichever order its entries come, and nothing is changed by it. -/
theorem listed_without_loss :
    (∀ entries entries', entries.Perm entries' → listing entries = listing entries') ∧
    (∀ entries, IsPlain entries →
      let lines := linesOf (listing entries)
      (lines.Pairwise fun l l' => encode l < encode l') ∧
      (∀ line, line ∈ lines ↔ ∃ s isFolder, (encode s, isFolder) ∈ entries ∧
        line = s ++ if isFolder then "/" else "") ∧
      lines.length = entries.length ∧
      (lines.map entryOf).Perm entries) ∧
    (∀ entries entries', IsPlain entries → IsPlain entries' →
      (listing entries = listing entries' ↔ ∀ e, e ∈ entries ↔ e ∈ entries')) ∧
    (∀ (t : Tree) (here p : Place) (args : Arguments), Leads t here args p →
      ∀ entries, entries.Perm (contents t p) →
        Builtin.listFolder.invoke args t here = (.ok (listing entries), t, [])) ∧
    (∀ (t t' : Tree) (here here' p p' : Place) (args args' : Arguments),
      Leads t here args p → Leads t' here' args' p' →
      IsPlain (contents t p) → IsPlain (contents t' p') →
      ((Builtin.listFolder.invoke args t here).1 = (Builtin.listFolder.invoke args' t' here').1 ↔
        ∀ e, e ∈ contents t p ↔ e ∈ contents t' p')) := by
  refine ⟨fun entries entries' => listing_perm, ?_, fun entries entries' => listing_eq_iff, ?_, ?_⟩
  · intro entries h
    refine ⟨pairwise_linesOf h, fun line => mem_linesOf h, ?_, map_entryOf_linesOf h⟩
    rw [← (map_entryOf_linesOf h).length_eq, List.length_map]
  · intro t here p args h entries hperm
    rw [invoke_listFolder h, listing_perm hperm]
  · intro t t' here here' p p' args args' h h' hplain hplain'
    rw [invoke_listFolder h, invoke_listFolder h', Except.ok.injEq]
    exact listing_eq_iff hplain hplain'

/-- A folder `a` is listed between the files `a.txt` and `a0`, since the slash behind it counts. -/
theorem listed_without_loss_folder_between :
    let t : Tree := { entries := [([encode "a"], .folder Tree.folderMode),
      ([encode "a0"], .file 0), ([encode "a.txt"], .file 1)] }
    let args : Arguments := Dict.empty.insert "path" (.text ".")
    let entries := [(encode "a0", false), (encode "a.txt", false), (encode "a", true)]
    Leads t [] args [] ∧ IsPlain entries ∧ entries.Perm (contents t []) ∧
      listing entries = "a.txt\na/\na0" ∧
      Builtin.listFolder.invoke args t [] = (.ok (listing entries), t, []) ∧
      ((linesOf (listing entries)).map entryOf).Perm entries := by
  intro t args entries
  have hleads : Leads t [] args [] := by
    have hdot : encode "." = Files.dot := by decide +kernel
    have hnames : Files.names Files.dot = [Files.dot] := by decide
    refine ⟨".", rfl, by decide +kernel, ?_⟩
    rw [hdot, Files.folderAt, Files.entryAt, Files.locate, if_neg (by decide), if_neg (by decide),
      hnames, Files.follow, if_pos rfl, Files.follow]
    rfl
  have hplain : IsPlain entries := by
    refine ⟨by decide +kernel, fun e he => ?_⟩
    simp only [entries, List.mem_cons, List.not_mem_nil, or_false] at he
    rcases he with rfl | rfl | rfl
    · exact ⟨⟨"a0", rfl⟩, by decide +kernel, by decide +kernel, by decide +kernel⟩
    · exact ⟨⟨"a.txt", rfl⟩, by decide +kernel, by decide +kernel, by decide +kernel⟩
    · exact ⟨⟨"a", rfl⟩, by decide +kernel, by decide +kernel, by decide +kernel⟩
  have hperm : entries.Perm (contents t []) := by decide +kernel
  have hsorted : sortedNames entries = ["a.txt", "a/", "a0"] := by
    refine List.Perm.eq_of_pairwise (fun a b _ _ => String.le_antisymm) (pairwise_ascending _)
      (by decide) ((ascending_perm _).trans ?_)
    simp only [entries, List.map_cons, List.map_nil, listedName_encode]
    decide
  have hlisting : listing entries = "a.txt\na/\na0" := by
    show String.intercalate "\n" (sortedNames entries) = _
    rw [hsorted]
    rfl
  obtain ⟨-, hread, -, hanswer, -⟩ := listed_without_loss
  exact ⟨hleads, hplain, hperm, hlisting, hanswer t [] [] args hleads entries hperm,
    (hread entries hplain).2.2.2⟩

end AgentPulse.Tool
