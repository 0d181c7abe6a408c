import TagOrigin.Main
import TagOrigin.Session
import TagOrigin.Proofs.Glob.OnePass
import TagOrigin.Proofs.Glob.Items
import TagOrigin.Proofs.Glob.Language
import TagOrigin.Proofs.Glob.Faults
import TagOrigin.Proofs.Glob.Widening
import TagOrigin.Proofs.Glob.Decoding
import TagOrigin.Proofs.Text.Lines
import TagOrigin.Proofs.Text.Pieces
import TagOrigin.Proofs.Usage.Offsets
import TagOrigin.Proofs.Register
import TagOrigin.Proofs.Usage.Grouping
import TagOrigin.Proofs.Import.Grammar
import TagOrigin.Proofs.Import.Extraction
import TagOrigin.Proofs.Import.LocalNames
import TagOrigin.Proofs.Import.Specifiers
import TagOrigin.Proofs.Import.ReadBack
import TagOrigin.Proofs.Import.Aliases
import TagOrigin.Proofs.Text.Order
import TagOrigin.Proofs.Files.Names
import TagOrigin.Proofs.Files.Resolution
import TagOrigin.Proofs.Files.Walk
import TagOrigin.Proofs.Files.Nesting
import TagOrigin.Proofs.Files.Leaves
import TagOrigin.Proofs.Files.AllFiles
import TagOrigin.Proofs.Encoding.Reading
import TagOrigin.Proofs.Environment
import TagOrigin.Proofs.Report
import TagOrigin.Proofs.Encoding.Utf8
import TagOrigin.Proofs.Encoding.RoundTrip
import TagOrigin.Proofs.Encoding.LineEnds
import TagOrigin.Proofs.Encoding.Ascii
import TagOrigin.Proofs.Usage.Sightings
import TagOrigin.Proofs.Usage.Origins
import TagOrigin.Proofs.Report.Encodings
import TagOrigin.Proofs.Report.Collection
import TagOrigin.Proofs.Files.Edits
import TagOrigin.Proofs.Session
import TagOrigin.Proofs.Environment.Loading
import TagOrigin.Proofs.Configurations
import TagOrigin.Proofs.Display.Brackets
import TagOrigin.Proofs.Display.Escape
import TagOrigin.Proofs.Display.Style
import TagOrigin.Proofs.Display.Tags
import TagOrigin.Proofs.Display.Console
import TagOrigin.Proofs.CommandLine.Verdict
import TagOrigin.Proofs.CommandLine.Routes
import TagOrigin.Proofs.Filter.Lists
import TagOrigin.Proofs.Filter.Ignoring
import TagOrigin.Proofs.Filter.Exclusion
import TagOrigin.Proofs.Filter.NamePatterns
import TagOrigin.Proofs.Filter.LastComponent
import TagOrigin.Proofs.Filter.Suffixes
import TagOrigin.Proofs.CommandLine.Lines
import TagOrigin.Proofs.Text.Substitution
import TagOrigin.Proofs.Display.Emoji
import TagOrigin.Proofs.Display.Shown
import TagOrigin.Proofs.Display.Verbatim
import TagOrigin.Proofs.Display.GlyphTags
