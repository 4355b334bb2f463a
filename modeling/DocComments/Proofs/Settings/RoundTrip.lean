import DocComments.Proofs.Toml.Lines
import DocComments.Proofs.Toml.Tables
import DocComments.Settings.File
import Mathlib.Data.List.Nodup

set_option autoImplicit false

/-!
# Settings that are saved are loaded again

The text of settings is a sequence of lines, each of which is read back as the header or the
assignment it was written for. The lines are put together to the table of the settings, and every
setting is found in that table. Only then the command character is checked, which nothing does when
settings are saved.

## Main definitions

* `Settings.toLines` — the lines that settings are written as.
* `Settings.toEntries` — the table of settings.

## Main results

* `Settings.prints_render` — the text of settings is read as their lines.
* `Settings.build_toLines` — the lines make the table of the settings.
* `Settings.ofEntries?_toEntries` — the settings are found in their table.
* `Settings.load_save` — loading what was saved gives the settings, or refuses their command
  character.
-/

namespace DocComments.Settings

open Toml

/-! ## The table of settings -/

/-- The renamed roles with their texts, as values under the identifiers of the roles. -/
def renamingEntries (r : Renaming) : Entries :=
  r.toList.map fun (kind, text) => (kind.id.toList, .text text.toList)

/-- The settings that are written before the renamings. -/
def plainEntries (s : Settings) : Entries :=
  [("command_character".toList, .text [s.commandCharacter]),
    ("implicit_paragraph".toList, .boolean s.implicitParagraph),
    ("output_sections".toList, .array (s.outputSections.map fun text => .text text.toList))]

/-- The table of settings. -/
def toEntries (s : Settings) : Entries :=
  s.plainEntries ++
    [("section_titles".toList, .table .header (renamingEntries s.titles)),
      ("commands".toList, .table .header (renamingEntries s.commands))]

/-- The assignments of the values of a table. -/
def assignments (entries : Entries) : List Line :=
  entries.map fun e => .assignment [] e.1 e.2

/-- The lines that settings are written as. -/
def toLines (s : Settings) : List Line :=
  [.header false [] "comment".toList] ++ assignments s.plainEntries ++
    [.header false ["comment".toList] "section_titles".toList] ++
    assignments (renamingEntries s.titles) ++
    [.header false ["comment".toList] "commands".toList] ++
    assignments (renamingEntries s.commands)

/-! ## Writing -/

/-- A string is read back. -/
lemma spells_writeString (text : List Char) : Spells (writeString text) (.text text) where
  start := by
    obtain ⟨c, rest, h, hc⟩ := exists_writeString text
    refine ⟨c, rest, h, ?_⟩
    rcases hc with rfl | rfl <;> rfl
  read rest := readValue_writeString _ text (by simp) (by simp)

/-- A flag is read back. -/
lemma spells_boolean (b : Bool) :
    Spells (if b then "true" else "false").toList (.boolean b) where
  start := by
    cases b with
    | true => exact ⟨'t', _, rfl, rfl⟩
    | false => exact ⟨'f', _, rfl, rfl⟩
  read rest := readValue_boolean _ b rest

/-- **A list of texts is read back**, on one line or on several ones. -/
lemma spells_renderList (texts : List String) :
    Spells (renderList texts) (.array (texts.map fun text => .text text.toList)) where
  start := by
    unfold renderList
    split
    · exact ⟨'[', _, rfl, rfl⟩
    · exact ⟨'[', _, rfl, rfl⟩
    · exact ⟨'[', _, rfl, rfl⟩
  read rest := by
    unfold renderList
    split
    · show readValue (79 + 1) ('[' :: ([] ++ ']' :: '\n' :: rest)) = _
      rw [readValue_bracket, readItems_close _ _ _ rfl]
      rfl
    · rename_i text
      rw [List.append_assoc, List.cons_append, List.singleton_append]
      show readValue (79 + 1) ('[' :: ([] ++ (writeString text.toList ++ ']' :: '\n' :: rest))) = _
      rw [readValue_bracket, readItems_writeString _ _ rfl _ (by simp)]
      rfl
    · have hshape : "[\n".toList ++ texts.flatMap (fun text =>
          "    ".toList ++ writeString text.toList ++ ",\n".toList) ++ [']'] ++ '\n' :: rest
          = '[' :: '\n' :: ((texts.map String.toList).flatMap itemLine ++ ']' :: '\n' :: rest) := by
        simp [List.flatMap_map, itemLine]
      rw [hshape, show maxNesting = 79 + 1 from rfl, readValue_itemLines]
      simp [Function.comp_def]

/-- The ids of the roles need no quotes. -/
lemma isBare_id (kind : SectionKind) : IsBare kind.id.toList := by
  cases kind <;> decide

/-- A setting is read back from its line. -/
lemma prints_renderLine (key : String) (hkey : IsBare key.toList) {text : List Char} {value : Value}
    (h : Spells text value) :
    Prints (renderLine key text) [.assignment [] key.toList value] :=
  .assignment hkey h

/-- The texts of a renaming are read back line by line. -/
lemma prints_renderRenaming (r : Renaming) :
    Prints (renderRenaming r) (assignments (renamingEntries r)) := by
  rw [assignments, renamingEntries, List.map_map]
  apply Prints.flatMap
  rintro ⟨kind, text⟩ -
  exact prints_renderLine kind.id (isBare_id kind) (spells_writeString _)

/-- The header of the settings is read back. -/
lemma prints_comment : Prints "[comment]\n".toList [.header false [] "comment".toList] := by
  have htext : "[comment]\n".toList = '[' :: "comment".toList ++ [']', '\n'] := by decide
  rw [htext]
  apply Prints.header
  · exact ⟨'c', _, rfl, rfl, by decide⟩
  · intro rest
    rw [readPath_bare (by decide) rfl (by rw [skipBlanks_cons rfl]; simp), skipBlanks_cons rfl]

/-- The header of a table of the settings, and the empty line before it. -/
lemma prints_header (text : List Char) (key : Key) (hkey : IsBare key)
    (htext : text = ['\n'] ++ ('[' :: ("comment".toList ++ '.' :: key) ++ [']', '\n'])) :
    Prints text [.header false ["comment".toList] key] := by
  rw [htext]
  apply Prints.emptyLine.append
  apply Prints.header
  · exact ⟨'c', _, rfl, rfl, by decide⟩
  · intro rest
    rw [List.append_assoc, List.cons_append,
      readPath_dotted (by decide) hkey rfl (by rw [skipBlanks_cons rfl]; simp), skipBlanks_cons rfl]

/-- **The text of settings is read as their lines.** -/
lemma prints_render (s : Settings) : Prints s.render s.toLines := by
  have hcharacter := prints_renderLine "command_character" (by decide)
    (spells_writeString [s.commandCharacter])
  have hparagraph := prints_renderLine "implicit_paragraph" (by decide)
    (spells_boolean s.implicitParagraph)
  have hsections := prints_renderLine "output_sections" (by decide)
    (spells_renderList s.outputSections)
  have htitles := prints_header "\n[comment.section_titles]\n".toList "section_titles".toList
    (by decide) (by decide)
  have hcommands := prints_header "\n[comment.commands]\n".toList "commands".toList
    (by decide) (by decide)
  exact ((((((prints_comment.append hcharacter).append hparagraph).append hsections).append
    htitles).append (prints_renderRenaming s.titles)).append hcommands).append
      (prints_renderRenaming s.commands)

/-! ## The table of the lines -/

/-- The keys of the settings that have no table of their own. -/
lemma keys_plainEntries (s : Settings) :
    s.plainEntries.keys = ["command_character", "implicit_paragraph", "output_sections"].map
      String.toList := rfl

/-- No role has two texts in a renaming. -/
lemma nodup_keys_renamingEntries (r : Renaming) : (renamingEntries r).keys.Nodup := by
  have hkinds : r.toList.map (·.1) = SectionKind.all.filter fun kind => (r kind).isSome := by
    rw [Renaming.toList, List.map_filterMap, ← List.filterMap_eq_filter]
    congr 1
    funext kind
    cases h : r kind <;> simp [Option.guard, h]
  have hinjective : Function.Injective fun kind : SectionKind => kind.id.toList := by
    intro kind kind' h
    have hid : kind.id = kind'.id := String.toList_inj.1 h
    exact Option.some.inj (by rw [← kind.ofId?_id, hid, kind'.ofId?_id])
  have hkeys : (renamingEntries r).keys = (r.toList.map (·.1)).map fun kind => kind.id.toList := by
    simp [Entries.keys, renamingEntries]
  rw [hkeys, hkinds]
  exact (List.Nodup.filter _ (by decide)).map hinjective

/-- **The lines make the table of the settings.** -/
lemma build_toLines (s : Settings) :
    build s.toLines = some [("comment".toList, .table .header s.toEntries)] := by
  have hcomment := IsPlace.only "comment".toList
  have hopen := IsPlace.root.adds_header
    (show "comment".toList ∉ Entries.keys [] from List.not_mem_nil) []
  have hplain := hcomment.adds_entries
    (show s.plainEntries.keys.Nodup by rw [keys_plainEntries]; decide)
  -- the two tables of renamed roles come last, so the first one is closed when the second one opens
  have hnewTitles : "section_titles".toList ∉ s.plainEntries.keys := by
    rw [keys_plainEntries]
    decide
  have hnewCommands : "commands".toList ∉ Entries.keys
      (s.plainEntries ++ [("section_titles".toList, .table .header (renamingEntries s.titles))]) := by
    rw [Entries.keys_append, keys_plainEntries]
    show _ ∉ _ ++ ["section_titles".toList]
    decide
  have hopenTitles := hcomment.adds_header hnewTitles ["comment".toList]
  have htitles := (hcomment.last hnewTitles).adds_entries
    (nodup_keys_renamingEntries s.titles)
  have hopenCommands :=
    hcomment.adds_header hnewCommands ["comment".toList, "section_titles".toList]
  have hcommands := (hcomment.last hnewCommands).adds_entries
    (nodup_keys_renamingEntries s.commands)
  exact (((((hopen.append hplain).append hopenTitles).append htitles).append hopenCommands).append
    hcommands).build_eq

/-! ## Reading -/

/-- Inserting texts of a renaming makes no change where these texts are there already. -/
lemma foldl_insert_apply {r : Renaming} {texts : List (SectionKind × String)}
    (htexts : ∀ p ∈ texts, r p.1 = some p.2) {start : Renaming} {kind : SectionKind}
    (hkind : start kind = r kind ∨ ∃ text, (kind, text) ∈ texts) :
    texts.foldl (fun r p => r.insert p.1 p.2) start kind = r kind := by
  induction texts generalizing start with
  | nil => simpa using hkind
  | cons p texts ih =>
    rw [List.foldl_cons]
    apply ih fun q hq => htexts q (by simp [hq])
    by_cases heq : kind = p.1
    · left
      rw [heq, Renaming.insert_self, htexts p (by simp)]
    · rcases hkind with hkind | ⟨text, hmem⟩
      · left
        rw [Renaming.insert_of_ne _ _ heq, hkind]
      · right
        refine ⟨text, ?_⟩
        rcases List.mem_cons.1 hmem with hp | hp
        · exact absurd (congrArg Prod.fst hp) heq
        · exact hp

/-- A renaming is put together again from its texts. -/
lemma foldl_insert_toList (r : Renaming) :
    r.toList.foldl (fun r p => r.insert p.1 p.2) Renaming.none = r := by
  funext kind
  apply foldl_insert_apply
  · intro p hp
    obtain ⟨kind, -, hkind⟩ := List.mem_filterMap.1 hp
    obtain ⟨text, htext, rfl⟩ := Option.map_eq_some_iff.1 hkind
    exact htext
  · cases h : r kind with
    | none => exact .inl rfl
    | some text =>
      exact .inr ⟨text, List.mem_filterMap.2 ⟨kind, SectionKind.mem_all kind, by simp [h]⟩⟩

/-- **A renaming is read back.** -/
lemma readRenaming?_renamingEntries (r : Renaming) :
    readRenaming? (.table .header (renamingEntries r)) = some r := by
  have hfold : ∀ (texts : List (SectionKind × String)) (start : Renaming),
      (texts.map fun p => ((p.1.id.toList, .text p.2.toList) : Key × Value)).foldlM
        (fun (r : Renaming) (e : Key × Value) =>
          (SectionKind.ofId? (String.ofList e.1)).bind fun kind =>
            (readText? e.2).map fun text => r.insert kind text) start
        = some (texts.foldl (fun r p => r.insert p.1 p.2) start) := by
    intro texts
    induction texts with
    | nil => exact fun start => rfl
    | cons p texts ih =>
      intro start
      rw [List.map_cons, List.foldlM_cons, List.foldl_cons, ← ih]
      simp [readText?]
  rw [readRenaming?, renamingEntries, hfold, foldl_insert_toList]

/-- A list of texts is found in its array. -/
lemma readList?_map_text (texts : List String) :
    readList? (.array (texts.map fun text => .text text.toList)) = some texts := by
  rw [readList?]
  induction texts with
  | nil => rfl
  | cons text texts ih =>
    rw [List.map_cons, List.mapM_cons, ih]
    simp [readText?]

/-- **The settings are found in their table.** -/
lemma ofEntries?_toEntries (s : Settings) :
    ofEntries? [("comment".toList, .table .header s.toEntries)] = some s := by
  have hcomment : Entries.get? [("comment".toList, .table .header s.toEntries)] "comment".toList
      = some (.table .header s.toEntries) := rfl
  have hcharacter : s.toEntries.get? "command_character".toList
    = some (.text [s.commandCharacter]) := rfl
  have hparagraph : s.toEntries.get? "implicit_paragraph".toList
    = some (.boolean s.implicitParagraph) := rfl
  have hsections : s.toEntries.get? "output_sections".toList
    = some (.array (s.outputSections.map fun text => .text text.toList)) := rfl
  have htitles : s.toEntries.get? "section_titles".toList
    = some (.table .header (renamingEntries s.titles)) := rfl
  have hcommands : s.toEntries.get? "commands".toList
    = some (.table .header (renamingEntries s.commands)) := rfl
  rw [ofEntries?, hcomment]
  simp only [orDefault, ofValue?, ofFields?, hcharacter, hparagraph, hsections, htitles, hcommands,
    readCharacter?, readFlag?, readRenaming?_renamingEntries, readList?_map_text]
  rfl

/-- A text is read back from its bytes. -/
lemma fromUTF8?_toUTF8 (text : String) : String.fromUTF8? text.toUTF8 = some text := by
  rw [String.fromUTF8?, String.toUTF8_eq_toByteArray, dif_pos text.isValidUTF8]
  rfl

/-- **The written settings are a table with all fields.** -/
lemma parse_render (s : Settings) :
    parse s.render = some [("comment".toList, .table .header s.toEntries)] := by
  have hmark : dropMark s.render = s.render := rfl
  rw [parse, hmark]
  show (readLines (s.render.length + 1) s.render).bind build = _
  rw [s.prints_render.readLines_eq, Option.bind_some, build_toLines]

/-- **Loading what was saved gives the settings back**, unless their command character is a letter, a
digit or white space: then they are refused, with that character.

**Proof sketch.** The text is read as the lines it was written from, which make the table of the
settings, and every setting is found there. The command character is the only setting that is
checked. -/
theorem load_save (s : Settings) :
    load s.save = if isReserved s.commandCharacter then
      .error (.invalidCommandCharacter s.commandCharacter) else .ok (some s) := by
  have htext : ofText (String.ofList s.render) = s.check := by
    rw [ofText, String.toList_ofList, parse_render, Option.bind_some, ofEntries?_toEntries]
  have hload : load s.save = s.check.map some := by
    rw [save, load, fromUTF8?_toUTF8, ← htext]
  rw [hload, check]
  split
  · rfl
  · rfl

end DocComments.Settings
