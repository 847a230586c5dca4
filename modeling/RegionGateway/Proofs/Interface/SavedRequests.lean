import RegionGateway.Interface.RequestFile
import RegionGateway.Proofs.Files.Overlays
import RegionGateway.Proofs.Json.RoundTrips
import RegionGateway.Widgets.Interface

/-!
# Requests that are saved and loaded

Every request is read back from its compact text and from the document that it is saved as
(`Request.codec_roundTrips`): the records that it is made of are, one by one. So a request that has been
saved is loaded as it was (`Request.load_of_saved`).
-/

namespace RegionGateway

/-! ## Records -/

theorem FieldDecl.codec_roundTrips (depth : Nat) : FieldDecl.codec.RoundTrips (depth + 1) := by
  have htext := Codec.text_roundTrips depth
  refine Codec.record_roundTrips (fun _ => rfl) ?_ ⟨?_, ?_, ?_, trivial⟩
  · simp [Members.Distinct, Members.names, Member.isNamed, Member.required, Member.optional]
  · exact Member.required_roundTrips "name" htext
  · exact Member.required_roundTrips "number" (Codec.u32_roundTrips depth)
  · exact Member.optional_roundTrips "type_name" htext Codec.write_text_ne_null

theorem MessageDecl.codec_roundTrips (depth : Nat) : MessageDecl.codec.RoundTrips (depth + 3) := by
  have htext := Codec.text_roundTrips (depth + 2)
  have hflag := Codec.flag_roundTrips (depth + 2)
  refine Codec.record_roundTrips (fun _ => rfl) ?_ ⟨?_, ?_, ?_, ?_, ?_, trivial⟩
  · simp [Members.Distinct, Members.names, Member.isNamed, Member.required, Member.defaulted,
      Member.optional]
  · exact Member.required_roundTrips "name" htext
  · exact Member.defaulted_roundTrips "fields" (Codec.list_roundTrips (FieldDecl.codec_roundTrips depth)) []
  · exact Member.defaulted_roundTrips "generate_cud_test" hflag false
  · exact Member.defaulted_roundTrips "generate_show_test" hflag false
  · exact Member.optional_roundTrips "uses_org" htext Codec.write_text_ne_null

theorem MethodDecl.codec_roundTrips (depth : Nat) : MethodDecl.codec.RoundTrips (depth + 1) := by
  have htext := Codec.text_roundTrips depth
  have hflag := Codec.flag_roundTrips depth
  refine Codec.record_roundTrips (fun _ => rfl) ?_ ⟨?_, ?_, ?_, ?_, ?_, ?_, ?_, ?_, trivial⟩
  · simp [Members.Distinct, Members.names, Member.isNamed, Member.required, Member.defaulted,
      Member.optional, Member.also]
  · exact Member.required_roundTrips "name" htext
  · exact Member.required_roundTrips "input_type" htext
  · exact Member.required_roundTrips "output_type" htext
  · exact Member.also_roundTrips "streaming" (Member.defaulted_roundTrips "server_streaming" hflag false)
  · exact Member.defaulted_roundTrips "client_streaming" hflag false
  · exact Member.optional_roundTrips "mc2_api" htext Codec.write_text_ne_null
  · exact Member.optional_roundTrips "requires_org" htext Codec.write_text_ne_null
  · exact Member.optional_roundTrips "summary" htext Codec.write_text_ne_null

theorem ServiceDecl.codec_roundTrips (depth : Nat) : ServiceDecl.codec.RoundTrips (depth + 3) := by
  refine Codec.record_roundTrips (fun _ => rfl) ?_ ⟨?_, ?_, trivial⟩
  · simp [Members.Distinct, Members.names, Member.isNamed, Member.required, Member.defaulted]
  · exact Member.required_roundTrips "name" (Codec.text_roundTrips (depth + 2))
  · exact Member.defaulted_roundTrips "methods"
      (Codec.list_roundTrips (MethodDecl.codec_roundTrips depth)) []

theorem FileDecl.codec_roundTrips (depth : Nat) : FileDecl.codec.RoundTrips (depth + 5) := by
  refine Codec.record_roundTrips (fun _ => rfl) ?_ ⟨?_, ?_, ?_, trivial⟩
  · simp [Members.Distinct, Members.names, Member.isNamed, Member.required, Member.defaulted]
  · exact Member.required_roundTrips "name" (Codec.text_roundTrips (depth + 4))
  · exact Member.defaulted_roundTrips "services"
      (Codec.list_roundTrips (ServiceDecl.codec_roundTrips depth)) []
  · exact Member.defaulted_roundTrips "messages"
      (Codec.list_roundTrips (MessageDecl.codec_roundTrips depth)) []

namespace Request

theorem codec_roundTrips (depth : Nat) : codec.RoundTrips (depth + 7) := by
  refine Codec.record_roundTrips (fun _ => rfl) ?_ ⟨?_, ?_, ?_, trivial⟩
  · simp [Members.Distinct, Members.names, Member.isNamed, Member.required, Member.defaulted,
      Member.optional, Member.leftOutWhen]
  · exact Member.required_roundTrips "files" (Codec.list_roundTrips (FileDecl.codec_roundTrips depth))
  · -- an empty list is left out, and stands for an absent one
    have htexts := Codec.list_roundTrips (Codec.text_roundTrips (depth + 5))
    exact Member.leftOutWhen_roundTrips (Member.defaulted_roundTrips "files_to_generate" htexts [])
      (fun _ => rfl) fun names hempty => congrArg some (List.isEmpty_iff.mp hempty).symm
  · exact Member.optional_roundTrips "parameter" (Codec.text_roundTrips (depth + 6)) Codec.write_text_ne_null

/-! ## Texts -/

theorem parse_encode (request : Request) : parse (codec.encode request) = .ok request :=
  (codec_roundTrips 120).decode_encode request

theorem parse_document (request : Request) : parse request.document = .ok request :=
  (codec_roundTrips 120).decode_pretty request

/-! ## Files -/

/-- What is loaded from a file is what its text describes. -/
theorem load_of_read {tree : FileTree} {path text : String} {request : Request}
    (hread : tree.read path = .ok (Utf8.bytes text)) (hparse : parse text = .ok request) :
    load FileTree.disk path tree = (.ok request, tree) := by
  have htext := FileTree.readText_of_read hread
  refine (Attempt.bind_ok _ (Attempt.adapt_eq RequestError.io htext)).trans ?_
  rw [hparse]
  rfl

section

variable {request : Request} {path : String} {tree after : FileTree}
  (h : save FileTree.disk path request tree = (.ok (), after))
include h

theorem read_of_saved : after.read path = .ok (Utf8.bytes request.document) := by
  obtain ⟨_, between, -, hwrite⟩ := Attempt.bind_eq_ok h
  exact FileTree.read_of_writeText hwrite

theorem load_of_saved : load FileTree.disk path after = (.ok request, after) :=
  load_of_read (read_of_saved h) request.parse_document

end

/-- A request is read back from every text that it is written as. -/
structure ReadBack (request : Request) : Prop where
  compact : parse (codec.encode request) = .ok request
  document : parse request.document = .ok request
  /-- A document ends in a newline. -/
  newline : ∃ lines, request.document = lines ++ "\n"
  /-- The document is what stands in a file after the request has been saved there, -/
  saved : ∀ path tree after, save FileTree.disk path request tree = (.ok (), after) →
    after.read path = .ok (Utf8.bytes request.document)
  /-- and the request is loaded from there. -/
  loaded : ∀ path tree after, save FileTree.disk path request tree = (.ok (), after) →
    load FileTree.disk path after = (.ok request, after)
  /-- What has been saved and loaded is saved as the same text again, wherever to. -/
  again : ∀ path tree after loaded between, save FileTree.disk path request tree = (.ok (), after) →
    load FileTree.disk path after = (.ok loaded, between) →
    ∀ other tree' last, save FileTree.disk other loaded tree' = (.ok (), last) →
      last.read other = after.read path

/-- **Requests survive saving and loading.** Every request is read back from its compact text. If it can
be saved to a file, the file's text ends in a newline, loading the file gives the same request, and saving
that one writes the same text. -/
theorem saved_and_loaded (request : Request) : request.ReadBack where
  compact := request.parse_encode
  document := request.parse_document
  newline := ⟨_, rfl⟩
  saved _ _ _ h := read_of_saved h
  loaded _ _ _ h := load_of_saved h
  again path tree after loaded between hsaved hloaded other tree' last hagain := by
    obtain ⟨hsame, -⟩ := Prod.mk.inj ((load_of_saved hsaved).symm.trans hloaded)
    obtain rfl := Except.ok.inj hsame
    rw [read_of_saved hagain, read_of_saved hsaved]

/-- The widget interface is saved below a directory that is created. -/
theorem saved_and_loaded_widgets :
    (∃ after, save FileTree.disk "ir/request.json" Widgets.request ⟨[], []⟩ = (.ok (), after)) ∧
      Widgets.request.ReadBack := by
  have hsaved : faultOf (save FileTree.disk "ir/request.json" Widgets.request ⟨[], []⟩).1 = none := by
    decide +kernel
  obtain ⟨_, hdone⟩ := faultOf_eq_none.mp hsaved
  exact ⟨⟨_, Prod.ext hdone rfl⟩, saved_and_loaded Widgets.request⟩

end Request

end RegionGateway
