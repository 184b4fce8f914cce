import CallCoupling.Event.Basic
import CallCoupling.Proofs.Json.Datum
import CallCoupling.Proofs.Json.Reading
import Mathlib

/-!
# A stream of frames is cut where it was joined

A client reads a stream line by line and takes what stands between two empty lines for one frame
(`EventStream.blocks`). A frame has two lines of its own, one with the version and one with the JSON text, and what is
written into them never holds an end of a line: numbers are digits, and a text has its controls spelled. So whatever
the events hold, the stream of their frames is cut into these frames again, and the JSON text of each tells its event
(`Event.stream_tells`).

The client knows three ends of a line, of which a writer has to avoid each. The reader of the JSON text is the one
without a limit, since the event is one container more than its data and may nest deeper than a reader with a limit
takes; such a reader tells the same where it takes the text (`Event.Told.limited`).
-/

set_option autoImplicit false

namespace CallCoupling

/-! ## 1. The client -/

namespace EventStream

/-- The lines of a stream that have ended; `line` is the one being read. -/
def linesFrom (line : List Char) : List Char → List (List Char)
  | [] => []
  | '\r' :: '\n' :: rest => line :: linesFrom [] rest
  | '\r' :: rest => line :: linesFrom [] rest
  | '\n' :: rest => line :: linesFrom [] rest
  | c :: rest => linesFrom (line ++ [c]) rest

/-- The runs of lines that an empty line has ended; `block` is the one being read. -/
def blocksFrom (block : List (List Char)) : List (List Char) → List (List (List Char))
  | [] => []
  | [] :: rest => block :: blocksFrom [] rest
  | line :: rest => blocksFrom (block ++ [line]) rest

/-- A stream cut at its empty lines. -/
def blocks (stream : String) : List (List String) :=
  (blocksFrom [] (linesFrom [] stream.toList)).map (·.map String.ofList)

theorem linesFrom_append {text : List Char} (htext : ∀ c ∈ text, 0x20 ≤ c.toNat) (line rest : List Char) :
    linesFrom line (text ++ rest) = linesFrom (line ++ text) rest := by
  induction text generalizing line with
  | nil => rw [List.append_nil, List.nil_append]
  | cons c text ih =>
    have hc : 0x20 ≤ c.toNat := htext c (by simp)
    rw [List.cons_append, linesFrom, ih fun c hc => htext c (by simp [hc])]
    · simp
    · rintro _ rfl
      simp at hc
    · rintro rfl
      simp at hc
    · rintro rfl
      simp at hc

/-- **A line of visible characters is read as one line.** -/
theorem linesFrom_line {text : List Char} (htext : ∀ c ∈ text, 0x20 ≤ c.toNat) (rest : List Char) :
    linesFrom [] (text ++ '\n' :: rest) = text :: linesFrom [] rest := by
  rw [linesFrom_append htext, linesFrom, List.nil_append]

end EventStream

namespace Event

/-- The event that a JSON value tells. -/
def ofJson? (v : Json) : Option Event := do
  let fields ← v.fields?
  let topic ← (fields.lookup "topic").bind Json.text?
  let runId ←
    match fields.lookup "run_id" with
    | none => some ""
    | some v => v.text?
  let kind ← (fields.lookup "type").bind Json.text?
  let data ← fields.lookup "data"
  let version ← (fields.lookup "version").bind Json.int?
  pure { topic, runId, kind, data, version }

/-! ## 2. One frame -/

/-- The event is given with a text for its data, or with none. The text may have blanks anywhere and spell its strings
    as it likes: by `Json.parse?_eq_some_iff` it is any text that the writer takes for a document. -/
structure Given (e : Event) (text : Option String) : Prop where
  version : Integer.fits e.version = true
  nothing : text = none → e.data = .null
  spells : ∀ s, text = some s → e.data.Spells s.toList ∧ e.data.depth ≤ Json.depthLimit

/-- The event written with a text for its data. -/
def written (e : Event) (text : Option String) : Except EventError String := (e.withData text).bind (·.send none)

/-- The JSON text stands on one line and tells the event. -/
structure Told (e : Event) (json : String) : Prop where
  noLineFeed : '\n' ∉ json.toList
  noReturn : '\r' ∉ json.toList
  told : ∃ e', (Json.read? json.toList).bind ofJson? = some e' ∧ e'.topic = e.topic ∧ e'.runId = e.runId ∧
    e'.kind = e.kind ∧ e'.version = e.version ∧ e'.data.datum? = e.data.datum? ∧ e.data.datum?.isSome
  limited : e.data.depth < Json.depthLimit → Json.parse? json.toList = Json.read? json.toList

variable {e : Event} {text : Option String}

theorem Given.proper (h : e.Given text) : e.data.Proper := by
  cases text with
  | none => rw [h.nothing rfl]; exact .null
  | some s => exact (h.spells s rfl).1.proper

theorem Given.withData_eq (h : e.Given text) : e.withData text = .ok e := by
  cases text with
  | none => rw [withData, ← h.nothing rfl]
  | some s =>
    have hparse := Json.parse?_eq_some_iff.2 (h.spells s rfl)
    simp only [withData, hparse]

/-- **An event that is given is written as its frame.** -/
theorem Given.written_eq (h : e.Given text) : e.written text = .ok e.frame := by
  rw [written, h.withData_eq]
  rfl

theorem proper_toJson (h : e.data.Proper) : e.toJson.Proper := by
  refine Json.proper_ofFields ?_
  have hrun : ∀ field ∈ (if e.runId = "" then [] else [("run_id", Json.text e.runId)]), field.2.Proper := by
    split
    · exact List.forall_mem_nil _
    · exact List.forall_mem_singleton.2 (Json.proper_text e.runId)
  refine List.forall_mem_append.2 ⟨List.forall_mem_append.2 ⟨?_, hrun⟩, ?_⟩
  · exact List.forall_mem_singleton.2 (Json.proper_text e.topic)
  · simp only [List.forall_mem_cons]
    exact ⟨Json.proper_text e.kind, h.safe, Json.proper_int e.version, List.forall_mem_nil _⟩

theorem depth_toJson (e : Event) : e.toJson.depth = e.data.depth + 1 := by
  by_cases hrun : e.runId = ""
  all_goals
    simp [toJson, Json.ofFields, Json.depth, Json.depthOfFields, Json.text, Json.int, Json.depth_safe, hrun]

/-- **The JSON form tells the event**, with its data safe in a page. -/
theorem ofJson?_toJson (h : Integer.fits e.version = true) :
    ofJson? e.toJson = some { e with data := e.data.safe } := by
  have htext : ∀ s, (Json.text s).text? = some s := Json.unescape_escape
  have hint : (Json.int e.version).int? = some e.version := by
    show (Integer.parseDecimal (Integer.text e.version)).toOption = some e.version
    rw [Integer.parseDecimal_text h]
    rfl
  rw [ofJson?, toJson, Json.fields?_ofFields]
  by_cases hrun : e.runId = ""
  · simp [List.lookup, htext, hint, hrun]
  · simp [List.lookup, htext, hint, hrun]

/-- **The JSON text tells the event.** -/
theorem Given.told (h : e.Given text) : e.Told e.toJson.compact := by
  have hproper := proper_toJson h.proper
  have hchars := Json.toList_compact e.toJson
  have hread : Json.read? e.toJson.compact.toList = some e.toJson := by
    rw [hchars]
    exact hproper.spells_compactChars.read?_eq
  have htold : (Json.read? e.toJson.compact.toList).bind ofJson? = some { e with data := e.data.safe } := by
    rw [hread]
    exact ofJson?_toJson h.version
  refine ⟨?_, ?_, ⟨_, htold, rfl, rfl, rfl, rfl, ?_, ?_⟩, ?_⟩
  · rw [hchars]
    intro hmem
    exact absurd (hproper.visible _ hmem) (by decide)
  · rw [hchars]
    intro hmem
    exact absurd (hproper.visible _ hmem) (by decide)
  · exact h.proper.datum?_safe
  · exact Option.isSome_iff_exists.2 h.proper.exists_datum?
  · intro hdepth
    rw [hread, hchars, hproper.spells_compactChars.parse?_eq, if_pos]
    rw [depth_toJson]
    exact hdepth

/-! ## 3. The stream -/

open EventStream

theorem visible_text (n : Int) : ∀ c ∈ (Integer.text n).toList, 0x20 ≤ c.toNat :=
  (Json.Token.Proper.visible (t := .number (Integer.text n)) (Json.Token.numberOk_text n))

theorem linesFrom_frame (h : e.data.Proper) (rest : List Char) :
    linesFrom [] (e.frame.toList ++ rest) =
      ("id: " ++ Integer.text e.version).toList :: ("data: " ++ e.toJson.compact).toList :: [] ::
        linesFrom [] rest := by
  have hid : ∀ c ∈ ("id: " ++ Integer.text e.version).toList, 0x20 ≤ c.toNat := by
    rw [String.toList_append]
    refine List.forall_mem_append.2 ⟨?_, visible_text e.version⟩
    simp
  have hdata : ∀ c ∈ ("data: " ++ e.toJson.compact).toList, 0x20 ≤ c.toNat := by
    rw [String.toList_append, Json.toList_compact]
    refine List.forall_mem_append.2 ⟨?_, (proper_toJson h).visible⟩
    simp
  have hframe : e.frame.toList ++ rest = ("id: " ++ Integer.text e.version).toList ++ '\n' ::
      (("data: " ++ e.toJson.compact).toList ++ '\n' :: ([] ++ '\n' :: rest)) := by
    simp [frame]
  rw [hframe, linesFrom_line hid, linesFrom_line hdata, linesFrom_line (List.forall_mem_nil _)]

theorem blocksFrom_frame (rest : List (List Char)) (e : Event) :
    blocksFrom [] (("id: " ++ Integer.text e.version).toList :: ("data: " ++ e.toJson.compact).toList :: [] :: rest) =
      [("id: " ++ Integer.text e.version).toList, ("data: " ++ e.toJson.compact).toList] :: blocksFrom [] rest := by
  rw [String.toList_append, String.toList_append]
  rfl

/-- **The frames of a stream are found again.** -/
theorem blocks_frames {events : List Event} (h : ∀ e ∈ events, e.data.Proper) :
    blocks (String.join (events.map frame)) =
      events.map fun e => ["id: " ++ Integer.text e.version, "data: " ++ e.toJson.compact] := by
  induction events with
  | nil => rfl
  | cons e events ih =>
    have hjoin : (String.join ((e :: events).map frame)).toList =
        e.frame.toList ++ (String.join (events.map frame)).toList := by
      simp [String.join_eq]
    rw [blocks, hjoin, linesFrom_frame (h e (by simp)), blocksFrom_frame, List.map_cons, List.map_cons]
    congr 1
    · simp only [List.map_cons, List.map_nil, String.ofList_toList]
    · exact ih fun e he => h e (by simp [he])

/-- **A stream of frames is cut where it was joined, and each frame tells its event.** Whatever the events hold, each is
    written as two lines and an empty one, and the stream of what is written has these pairs of lines between its
    empty lines, as many and in this order. -/
theorem stream_tells (posts : List (Event × Option String)) (hposts : ∀ p ∈ posts, p.1.Given p.2) :
    (∀ p ∈ posts, p.1.written p.2 = .ok p.1.frame ∧
      p.1.frame = "id: " ++ Integer.text p.1.version ++ "\ndata: " ++ p.1.toJson.compact ++ "\n\n" ∧
      p.1.Told p.1.toJson.compact) ∧
    blocks (String.join (posts.map fun p => p.1.frame)) =
      posts.map fun p => ["id: " ++ Integer.text p.1.version, "data: " ++ p.1.toJson.compact] := by
  refine ⟨fun p hp => ⟨(hposts p hp).written_eq, rfl, (hposts p hp).told⟩, ?_⟩
  have hproper : ∀ e ∈ posts.map (·.1), e.data.Proper := List.forall_mem_map.2 fun p hp => (hposts p hp).proper
  have hblocks := blocks_frames hproper
  rwa [List.map_map, List.map_map] at hblocks

/-- Two events with ends of lines in all that they hold, one of them without data. -/
def brokenLines : List (Event × Option String) :=
  let e : Event := { topic := "a\n\nid: 1", runId := "\"\r\"", kind := "\r\n", version := -3 }
  [({ e with data := .object [("k".toList, .array [.number "1", .string "<\\n".toList])] },
      some " \x7b\"k\" :\n[1,\r\n\"<\\n\"]\t\x7d\n"),
    ({ e with runId := "" }, none)]

theorem stream_tells_broken_lines :
    (∀ p ∈ brokenLines, p.1.Given p.2) ∧
      blocks (String.join (brokenLines.map fun p => p.1.frame)) =
        [["id: -3", "data: \x7b\"topic\":\"a\\n\\nid: 1\",\"run_id\":\"\\\"\\r\\\"\",\"type\":\"\\r\\n\"," ++
            "\"data\":\x7b\"k\":[1,\"\\u003c\\n\"]\x7d,\"version\":-3\x7d"],
          ["id: -3", "data: \x7b\"topic\":\"a\\n\\nid: 1\",\"type\":\"\\r\\n\",\"data\":null,\"version\":-3\x7d"]] := by
  have hposts : ∀ p ∈ brokenLines, p.1.Given p.2 := by
    simp only [brokenLines, List.forall_mem_cons]
    refine ⟨⟨by decide, by simp, ?_⟩, ⟨by decide, by simp, by simp⟩, List.forall_mem_nil _⟩
    rintro s ⟨⟩
    exact ⟨Json.read?_eq_some_iff.1 (by rfl), by decide⟩
  refine ⟨hposts, (stream_tells brokenLines hposts).2.trans ?_⟩
  decide +kernel

end Event

end CallCoupling
