import AttackSharkX3.Carries
import AttackSharkX3.Resumes
import AttackSharkX3.Intact
import AttackSharkX3.Cancel
import AttackSharkX3.Exchange
import AttackSharkX3.Rig
import AttackSharkX3.Attested
import AttackSharkX3.Scan
import AttackSharkX3.Rows
import AttackSharkX3.Found
import AttackSharkX3.Remembered
import AttackSharkX3.Guards
import AttackSharkX3.Stages
import AttackSharkX3.Asserts
import AttackSharkX3.Surface
import AttackSharkX3.Offers
import AttackSharkX3.Rotates
import AttackSharkX3.Underway
import AttackSharkX3.Finishes
import AttackSharkX3.Evidence
import AttackSharkX3.Forget
import AttackSharkX3.Report.Dpi
import AttackSharkX3.Report.DpiCodec
import AttackSharkX3.Driver.Feature
import AttackSharkX3.Driver.Armed
import AttackSharkX3.Driver.Verified
import AttackSharkX3.Effects.Ends
import AttackSharkX3.Alone
import AttackSharkX3.Polling
import AttackSharkX3.Composite
import AttackSharkX3.Records
import AttackSharkX3.Late
import AttackSharkX3.Recorded
import AttackSharkX3.Verify
import AttackSharkX3.Reread
import AttackSharkX3.Deltas
import AttackSharkX3.Invented
import AttackSharkX3.Reads
import AttackSharkX3.Reserved
import AttackSharkX3.Decision
import AttackSharkX3.Traversal
import AttackSharkX3.Selections
import AttackSharkX3.Effects.Matches
import AttackSharkX3.OnePart
import AttackSharkX3.Imports
import AttackSharkX3.Issued
import AttackSharkX3.Migrated
import AttackSharkX3.Disk
import AttackSharkX3.Stored
import AttackSharkX3.Backends
import AttackSharkX3.Draft
import AttackSharkX3.Handed
import AttackSharkX3.Shown
import AttackSharkX3.Applied
import AttackSharkX3.Wireless
import AttackSharkX3.Report.PreferencesCodec
import AttackSharkX3.Report.ButtonsCodec
import AttackSharkX3.Report.Corruption
import AttackSharkX3.Report.Watermark
import AttackSharkX3.Folding
import AttackSharkX3.Associations
import AttackSharkX3.Factory
import AttackSharkX3.Reappears
import AttackSharkX3.DpiEdits
import AttackSharkX3.Presented
import AttackSharkX3.Answers
import AttackSharkX3.Carried
import AttackSharkX3.Report.Hex
import AttackSharkX3.GuiPreferences
import AttackSharkX3.Driver.Inbox
import AttackSharkX3.Closures
import AttackSharkX3.Severed
import AttackSharkX3.Usable
import AttackSharkX3.Driver.Session
import AttackSharkX3.Callbacks
import AttackSharkX3.Log.Civil
import AttackSharkX3.Log.Rotating
import AttackSharkX3.Log.Kept
