import KnitPattern.Counter
import KnitPattern.Document.OfYaml
import KnitPattern.Glossary.Starter
import KnitPattern.Heuristics.OfDocument
import KnitPattern.Pattern
import KnitPattern.Settings.OfDocument
import KnitPattern.Proofs.Halting
import KnitPattern.Proofs.Reading.Run
import KnitPattern.Proofs.Reading.Continuity
import KnitPattern.Proofs.Round.Order
import KnitPattern.Proofs.Reading.BackReference
import KnitPattern.Proofs.Body.Around
import KnitPattern.Proofs.Body.Clause
import KnitPattern.Proofs.Body.Spelling
import KnitPattern.Proofs.Body.Unrolling
import KnitPattern.Proofs.Numeral
import KnitPattern.Proofs.Reading.Rendered
import KnitPattern.Proofs.Reading.Account
import KnitPattern.Proofs.Reading.Reordering
import KnitPattern.Proofs.Round.Appending
import KnitPattern.Proofs.Reading.Appending
import KnitPattern.Proofs.Stitch.Count
import KnitPattern.Proofs.Body.Halts
import KnitPattern.Proofs.Round.Digits
import KnitPattern.Proofs.Reading.Halts
import KnitPattern.Proofs.Round.Size
import KnitPattern.Proofs.Body.Size
import KnitPattern.Proofs.Timeline.Advance
import KnitPattern.Proofs.Stitch.Unambiguous
import KnitPattern.Proofs.Round.Kept
import KnitPattern.Proofs.Reading.Wrapping
import KnitPattern.Proofs.Reading.Geometry
import KnitPattern.Proofs.Reading.Limits
import KnitPattern.Proofs.Reading.Labels
import KnitPattern.Proofs.Reading.Caseless
import KnitPattern.Proofs.Reading.Remarks
import KnitPattern.Proofs.Timeline.Linked
import KnitPattern.Proofs.Body.StitchLimit
import KnitPattern.Proofs.Reading.LeftOut
import KnitPattern.Proofs.Reading.Monotone
import KnitPattern.Proofs.Heuristics.Tables
import KnitPattern.Proofs.Heuristics.Listing
import KnitPattern.Proofs.Document.Written
import KnitPattern.Proofs.Round.Attribution
import KnitPattern.Proofs.Heuristics.Resolution
import KnitPattern.Proofs.Heuristics.Validation
import KnitPattern.Proofs.Counter.History
import KnitPattern.Proofs.Stitch.Cleaning
import KnitPattern.Proofs.Timeline.Stale
import KnitPattern.Proofs.Document.Plain
import KnitPattern.Proofs.Glossary.Listing
import KnitPattern.Proofs.Settings.Acceptance
