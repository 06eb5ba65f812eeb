import SpokenIntent.Main
import SpokenIntent.Proofs.Benchmark.Interleavings
import SpokenIntent.Proofs.Console.Commands
import SpokenIntent.Proofs.Console.Shutdown
import SpokenIntent.Proofs.Credentials.Ways
import SpokenIntent.Proofs.Host.Drains
import SpokenIntent.Proofs.Host.Offspring
import SpokenIntent.Proofs.Host.Values
import SpokenIntent.Proofs.Recognition.Case
import SpokenIntent.Proofs.Recognition.Conversation
import SpokenIntent.Proofs.Recognition.Cuts
import SpokenIntent.Proofs.Recognition.Hints
import SpokenIntent.Proofs.Recognition.Lessons
import SpokenIntent.Proofs.Recognition.Punctuation
import SpokenIntent.Proofs.Recognition.Registrations
import SpokenIntent.Proofs.Relay.Containment
import SpokenIntent.Proofs.Session.Calls
import SpokenIntent.Proofs.Session.Forward
import SpokenIntent.Proofs.Session.Lifetime
import SpokenIntent.Proofs.Session.ObjectRuns
import SpokenIntent.Proofs.Session.Objects
import SpokenIntent.Proofs.Session.Payloads
import SpokenIntent.Proofs.Session.Runs
import SpokenIntent.Proofs.Session.Silence
import SpokenIntent.Proofs.Session.Teardown
import SpokenIntent.Proofs.Settings.Collisions
import SpokenIntent.Proofs.Settings.Reload
import SpokenIntent.Proofs.Settings.Sources
import SpokenIntent.Proofs.Settings.Vocabulary
import SpokenIntent.Proofs.Text.Words
import SpokenIntent.Proofs.Vocabulary.Commands
import SpokenIntent.Proofs.Vocabulary.Numbers
import SpokenIntent.Relay.Script
import SpokenIntent.Session.Forward
import SpokenIntent.Session.ObjectScript
import SpokenIntent.Session.Script
