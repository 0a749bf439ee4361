import WebhookClient.Operation.Catalog
import WebhookClient.Proofs.Call.Answer
import WebhookClient.Proofs.Call.Checks
import WebhookClient.Proofs.Call.Confined
import WebhookClient.Proofs.Call.Deadline
import WebhookClient.Proofs.Call.OwnHeaders
import WebhookClient.Proofs.Call.Precedence
import WebhookClient.Proofs.Call.Refusal
import WebhookClient.Proofs.Call.ServiceFailure
import WebhookClient.Proofs.Call.Trace
import WebhookClient.Proofs.Client.Construction
import WebhookClient.Proofs.Client.Key
import WebhookClient.Proofs.Client.Region
import WebhookClient.Proofs.Client.Token
import WebhookClient.Proofs.Client.Walk
import WebhookClient.Proofs.Instant.Denoted
import WebhookClient.Proofs.Json.Members
import WebhookClient.Proofs.Pagination
import WebhookClient.Proofs.Records.ByName
import WebhookClient.Proofs.Records.EndpointMessage
import WebhookClient.Proofs.Records.Integer
import WebhookClient.Proofs.Records.Required
import WebhookClient.Proofs.Records.RoundTrip
import WebhookClient.Proofs.Records.Update
import WebhookClient.Proofs.Request.Decoded
import WebhookClient.Proofs.Request.Expansion
