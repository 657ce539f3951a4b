import Redline.Text.Lines
import Redline.Text.Digit
import Redline.Text.Quoted
import Redline.Text.Case
import Redline.Text.CharName
import Redline.Number.Quantity
import Redline.Json.Reader
import Redline.Json.Writer
import Redline.Json.Quantity
import Redline.Outline.Cache
import Redline.Diff.ChangedUnit
import Redline.Patch.Apply
import Redline.Patch.Validate
import Redline.Given
import Redline.Comment
import Redline.Review.Reviewer
import Redline.Refine.Prompts
import Redline.Refine.Client
import Redline.Auth.Signature
import Redline.Auth.Integration
import Redline.Webhook
import Redline.Form.Meaning
import Redline.Service.Launch
import Redline.Setup.Step
import Redline.Setup.Arguments
import Redline.Exchange
import Redline.Main
import Redline.Proofs.Outline.Rows
import Redline.Proofs.Outline.Sections
import Redline.Proofs.Outline.Units
import Redline.Proofs.Outline.Separation
import Redline.Proofs.Patch.Application
import Redline.Proofs.Patch.Registration
import Redline.Proofs.Patch.Outcome
import Redline.Proofs.Patch.Consistency
import Redline.Proofs.Patch.Validation
import Redline.Proofs.Patch.Enclosing
import Redline.Proofs.Patch.Imports
import Redline.Proofs.Outline.Steady
import Redline.Proofs.Outline.Sharing
import Redline.Proofs.Outline.Excerpt
import Redline.Proofs.Outline.Window
import Redline.Proofs.Grouping
import Redline.Proofs.Grouping.Units
import Redline.Proofs.Grouping.Proximity
import Redline.Proofs.Refine.Steps
import Redline.Proofs.Refine.Agreement
import Redline.Proofs.Forge.Marking
import Redline.Proofs.Refine.Tally
import Redline.Proofs.Refine.Lookups
import Redline.Proofs.Desk.Labels
import Redline.Proofs.Journal
import Redline.Proofs.Desk.Supervision
import Redline.Proofs.Desk.Exclusion
import Redline.Proofs.Diff.Header
import Redline.Proofs.Diff.Units
import Redline.Proofs.Diff.Numbers
import Redline.Proofs.Diff.Patch
import Redline.Proofs.Diff.Collection
import Redline.Proofs.Diff.Sides
import Redline.Proofs.Diff.Unnumbered
import Redline.Proofs.Refine.Completion
import Redline.Proofs.Refine.Commits
import Redline.Proofs.Refine.Repeats
import Redline.Proofs.Refine.Account
import Redline.Proofs.Refine.Mentions
import Redline.Proofs.Refine.Unchanged
import Redline.Proofs.Forge.Writes
import Redline.Proofs.Forge.Isolation
import Redline.Proofs.Refine.Written
import Redline.Proofs.Auth.Signature
import Redline.Proofs.Desk.Success
import Redline.Proofs.Desk.Access
import Redline.Proofs.Text.Search
import Redline.Proofs.Auth.KeyLayout
import Redline.Proofs.Review.Sections
import Redline.Proofs.Forge.Accounted
import Redline.Proofs.Forge.Sight
import Redline.Proofs.Review.Answers
import Redline.Proofs.Desk.Attempts
import Redline.Proofs.Desk.Headings
import Redline.Proofs.Patch.Touching
import Redline.Proofs.Outline.Coordinates
import Redline.Proofs.Patch.Header
