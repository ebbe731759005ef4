import NamedParams.Log.Installation
import NamedParams.Log.Recent
import NamedParams.Main
import NamedParams.Preferences.Text
import NamedParams.Proofs.Construction.Redacted
import NamedParams.Proofs.Construction.Settings
import NamedParams.Proofs.Construction.WellFormed
import NamedParams.Proofs.Pattern.Equivalence
import NamedParams.Proofs.Report
import NamedParams.Proofs.Construction.Shown
import NamedParams.Proofs.Pattern.Copied
import NamedParams.Proofs.Pattern.Repinned
import NamedParams.Proofs.Slots.History
import NamedParams.Proofs.Json.Conversion
import NamedParams.Proofs.Json.Declarations
import NamedParams.Proofs.Construction.Causes
import NamedParams.Proofs.Construction.Spelling
import NamedParams.Proofs.Log.Recent
import NamedParams.Proofs.Log.Context
import NamedParams.Proofs.Log.Message
import NamedParams.Proofs.CharSet
