import RegionGateway.Proofs.Output.Directives
import RegionGateway.Proofs.Output.Files
import RegionGateway.Proofs.Output.RouteComments
import RegionGateway.Proofs.Rust.Headings

/-!
# The lines of generated files

Every declaration of a file stands in its text, below the lines of its imports (`SourceFile.stands_item`,
`SourceFile.stands_import`). If no name and no annotation of a request has a line break (`Generation.OnOneLine`), the
files have no other lines that begin like a declaration or an import (`Generation.headings_file`).
-/

namespace RegionGateway

open Rust Text

/-! ## The text of a file -/

namespace SourceFile

/-- The lines above the imports. -/
def origin (file : SourceFile) : String := generatedHeader ++ "\n// source: " ++ file.source ++ "\n\n"

variable {file : SourceFile}

theorem endsLine_origin : EndsLine file.origin.toList := endsLine_append (by decide)

theorem endsLine_head : EndsLine file.head.toList := by
  rw [head, String.toList_append]
  refine endsLine_origin.append ?_
  split
  · exact endsLine_empty
  · exact endsLine_append (by decide)

/-- A declaration of a file stands in its text. -/
theorem stands_item {item : Item} (h : item ∈ file.chunk.items) : Stands item.text file.text :=
  Stands.below endsLine_head (stands_join (List.forall_mem_map.mpr fun other _ => other.endsLine_text)
    (List.mem_map_of_mem h))

theorem stands_lines {item : Item} (h : item ∈ file.chunk.items) : Stands item.lines file.text :=
  (Stands.above (Stands.refl _) "\n").trans (stands_item h)

/-- A symbol that a file imports is in a line of its text that imports symbols from the path. -/
theorem stands_import {path symbol : String} (h : symbol ∈ file.chunk.imports.symbolsOf path) :
    ∃ symbols, symbol ∈ symbols ∧ Stands (Imports.statement path symbols ++ "\n") file.text := by
  cases hlookup : file.chunk.imports.entries.lookup path with
  | none => simp [Imports.symbolsOf, hlookup] at h
  | some symbols =>
      have hsymbol : symbol ∈ symbols := by simpa [Imports.symbolsOf, hlookup] using h
      obtain ⟨before, after, hentries, -⟩ := List.lookup_eq_some_iff.mp hlookup
      have hentry : (path, symbols) ∈ file.chunk.imports.entries :=
        hentries ▸ List.mem_append_right _ List.mem_cons_self
      have himports : Stands (Imports.statement path symbols ++ "\n") file.chunk.imports.text :=
        Imports.line_eq path symbols ▸ stands_join file.chunk.imports.endsLine_lines
          (List.mem_map.mpr ⟨_, hentry, rfl⟩)
      have hsome : file.chunk.imports.text ≠ "" := by
        intro hempty
        obtain ⟨front, back, -, htext⟩ := himports
        have hchars := congrArg String.toList (hempty.symm.trans htext)
        simp at hchars
      refine ⟨symbols, hsymbol, ?_⟩
      have hhead : Stands (Imports.statement path symbols ++ "\n") file.head := by
        rw [head, if_neg hsome]
        exact Stands.below endsLine_origin (himports.above "\n")
      exact hhead.above _

end SourceFile

/-! ## Parts of files -/

/-- Nothing in a part of a file begins a line like a heading. -/
structure Chunk.OnLines (chunk : Chunk) : Prop where
  uses : ∀ use ∈ chunk.uses, OneLine use.path ∧ OneLine use.symbol
  items : ∀ item ∈ chunk.items, item.OnLines

namespace Chunk

theorem onLines_empty : empty.OnLines := ⟨List.forall_mem_nil _, List.forall_mem_nil _⟩

theorem OnLines.append {a b : Chunk} (ha : a.OnLines) (hb : b.OnLines) : (a.append b).OnLines :=
  ⟨List.forall_mem_append.mpr ⟨ha.uses, hb.uses⟩, List.forall_mem_append.mpr ⟨ha.items, hb.items⟩⟩

theorem onLines_concat {chunks : List Chunk} (h : ∀ chunk ∈ chunks, chunk.OnLines) : (concat chunks).OnLines := by
  constructor
  · rw [concat_uses]
    exact List.forall_mem_flatMap.mpr fun chunk hchunk => (h chunk hchunk).uses
  · rw [concat_items]
    exact List.forall_mem_flatMap.mpr fun chunk hchunk => (h chunk hchunk).items

end Chunk

/-- The headings of a file are the lines of its imports, and the headings of its declarations. -/
theorem SourceFile.headings_text {file : SourceFile} (hsource : OneLine file.source) (h : file.chunk.OnLines) :
    headings file.text = file.chunk.imports.entries.map (fun entry => (Imports.statement entry.1 entry.2).toList) ++
      (file.chunk.items.filterMap Item.heading?).map String.toList := by
  have horigin : headings file.origin = [] := by
    have hline : Passes true (generatedHeader ++ "\n// source: " ++ file.source) false :=
      Passes.append (by decide) hsource.passes
    exact (hline.append (r := true) (by decide)).headings
  have hhead : headings file.head =
      file.chunk.imports.entries.map fun entry => (Imports.statement entry.1 entry.2).toList := by
    have himports : headings file.chunk.imports.text =
        file.chunk.imports.entries.map fun entry => (Imports.statement entry.1 entry.2).toList :=
      Imports.headings_text h.uses
    rw [head, ← himports]
    refine (headings_append endsLine_origin).trans ?_
    rw [horigin, List.nil_append]
    split
    · next hempty => rw [hempty]
    · have hblank : headings "\n" = [] := by decide
      rw [headings_append file.chunk.imports.endsLine_text, hblank, List.append_nil]
  have hitems : headings file.chunk.text = (file.chunk.items.filterMap Item.heading?).map String.toList := by
    rw [Chunk.text, headings_join (List.forall_mem_map.mpr fun item _ => item.endsLine_text), List.flatMap_map,
      List.filterMap_eq_flatMap_toList, List.map_flatMap]
    exact List.flatMap_congr fun item hitem => Item.headings_text (h.items item hitem)
  rw [text, headings_append endsLine_head, hhead, hitems]

end RegionGateway
